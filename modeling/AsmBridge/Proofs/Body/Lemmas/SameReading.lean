import AsmBridge.Proofs.Body.Lemmas.Shape

/-!
# Lines that are read alike

A function is converted in the same way with other lines in place of its own, as long as each of them is taken for the
same part of the function and becomes the same line.
-/

namespace AsmBridge

/-! ## Related lists -/

section

variable {α β γ : Type} {r : α → β → Prop} {xs : List α} {ys : List β} (h : List.Forall₂ r xs ys)
include h

theorem forall₂_filter {p : α → Bool} {q : β → Bool} (hpq : ∀ x y, r x y → p x = q y) :
    List.Forall₂ r (xs.filter p) (ys.filter q) :=
  List.rel_filter (fun x y hr => iff_of_eq (congrArg (· = true) (hpq x y hr))) h

theorem forall₂_takeWhile {p : α → Bool} {q : β → Bool} (hpq : ∀ x y, r x y → p x = q y) :
    List.Forall₂ r (xs.takeWhile p) (ys.takeWhile q) := by
  induction h with
  | nil => exact .nil
  | cons hr _ ih =>
      rw [List.takeWhile_cons, List.takeWhile_cons, hpq _ _ hr]
      split
      · exact .cons hr ih
      · exact .nil

theorem forall₂_dropWhile {p : α → Bool} {q : β → Bool} (hpq : ∀ x y, r x y → p x = q y) :
    List.Forall₂ r (xs.dropWhile p) (ys.dropWhile q) := by
  induction h with
  | nil => exact .nil
  | cons hr htail ih =>
      rw [List.dropWhile_cons, List.dropWhile_cons, hpq _ _ hr]
      split
      · exact ih
      · exact .cons hr htail

theorem any_eq_of_forall₂ {p : α → Bool} {q : β → Bool} (hpq : ∀ x y, r x y → p x = q y) : xs.any p = ys.any q := by
  induction h with
  | nil => rfl
  | cons hr _ ih => rw [List.any_cons, List.any_cons, hpq _ _ hr, ih]

theorem filterMap_eq_of_forall₂ {f : α → Option γ} {g : β → Option γ} (hfg : ∀ x y, r x y → f x = g y) :
    xs.filterMap f = ys.filterMap g := by
  induction h with
  | nil => rfl
  | cons hr _ ih => rw [List.filterMap_cons, List.filterMap_cons, hfg _ _ hr, ih]

end

/-! ## Lines -/

/-- Two lines that are taken for the same part of a function and become the same line. -/
structure SameReading (line other : Text) : Prop where
  code : holdsCode line = holdsCode other
  entry : EntryForm.ofLine? line = EntryForm.ofLine? other
  exit : isExitForm line = isExitForm other
  ret : isReturn line = isReturn other
  upper : clearsUpper line = clearsUpper other
  converted : ∀ table layout, convertLine table layout line = convertLine table layout other

theorem SameReading.refl (line : Text) : SameReading line line :=
  ⟨rfl, rfl, rfl, rfl, rfl, fun _ _ => rfl⟩

section

variable {lines others : List Text} (h : List.Forall₂ SameReading lines others)
include h

theorem bodyLines_congr : List.Forall₂ SameReading (bodyLines lines) (bodyLines others) :=
  forall₂_filter h fun _ _ hr => hr.code

theorem convertFrom_congr (e : Epilogue) (table : Table) (layout : Layout) (index : Nat) :
    convertFrom e table layout index lines = convertFrom e table layout index others := by
  induction h generalizing index with
  | nil => rfl
  | cons hr _ ih => rw [convertFrom, convertFrom, convertAt, convertAt, hr.converted, ih]

theorem convertSubroutine_congr (name : Text) (e : Epilogue) (count : Nat) (args : StackArgs) (table : Table) :
    convertSubroutine lines name e count args table = convertSubroutine others name e count args table := by
  rw [convertSubroutine, convertSubroutine, convertBody, convertBody, h.length_eq, convertFrom_congr h]

namespace Shape

theorem returnPositions_congr : returnPositions lines = returnPositions others := by
  suffices ∀ n, ((lines.zipIdx n).filter fun p => isReturn p.1).map (·.2) =
      ((others.zipIdx n).filter fun p => isReturn p.1).map (·.2) from this 0
  induction h with
  | nil => exact fun n => rfl
  | cons hr _ ih =>
      intro n
      simp only [List.zipIdx_cons, List.filter_cons, hr.ret]
      split
      · rw [List.map_cons, List.map_cons, ih]
      · exact ih (n + 1)

theorem exitLength_congr (position : Nat) : exitLength lines position = exitLength others position :=
  (forall₂_takeWhile (List.forall₂_reverse_iff.mpr (List.forall₂_take position h)) fun _ _ hr => hr.exit).length_eq

theorem epilogue_build_congr (entry : Entry) (position : Nat) :
    (build entry lines position).epilogue = (build entry others position).epilogue := by
  have hlength := exitLength_congr h position
  have hupper := any_eq_of_forall₂ (List.forall₂_drop (position - exitLength others position)
    (List.forall₂_take (position + 1) h)) (fun _ _ hr => hr.upper)
  simp only [build, hlength, hupper]

end Shape

end

/-! ## Functions -/

namespace Shape

/-- The instructions of the entry sequence of lines. -/
def entryForms (lines : List Text) : List EntryForm :=
  (lines.takeWhile fun line => (EntryForm.ofLine? line).isSome).filterMap EntryForm.ofLine?

/-- The lines after the entry sequence. -/
def afterEntry (lines : List Text) : List Text :=
  lines.dropWhile fun line => (EntryForm.ofLine? line).isSome

/-- The shape of a function with a body. -/
def ofBody (name : Text) (body : List Text) (entry : Entry) : Except Fault Shape :=
  match returnPositions body with
  | [] => throw (.noReturn name)
  | [position] => return build entry body position
  | positions => throw (.severalReturns name positions.length)

theorem ofFunction_eq_bind (f : Function) : ofFunction f =
    Entry.ofForms (entryForms (bodyLines f.lines)) >>= ofBody f.name (afterEntry (bodyLines f.lines)) :=
  rfl

theorem ofBody_congr {body other : List Text} (h : List.Forall₂ SameReading body other) (name : Text) (entry : Entry) :
    ofBody name other entry = (ofBody name body entry).map fun shape => { shape with body := other } := by
  unfold ofBody
  rw [returnPositions_congr h]
  split
  · rfl
  · rename_i position _
    have hbuild : (build entry other position).epilogue = (build entry body position).epilogue :=
      (epilogue_build_congr h entry position).symm
    exact congrArg (fun e => Except.ok (Shape.mk other e entry.offsetToFirst)) hbuild
  · rfl

variable {f g : Function} {shape : Shape}

/-- The name of a function is of no account where there is nothing wrong with it. -/
theorem ofFunction_of_lines_eq (hlines : f.lines = g.lines) (hs : ofFunction f = .ok shape) : ofFunction g = .ok shape := by
  rw [ofFunction_eq_bind, hlines] at hs
  rw [ofFunction_eq_bind]
  obtain ⟨entry, hentry, hs⟩ := exists_of_bind_eq_ok hs
  rw [hentry]
  unfold ofBody at hs
  split at hs
  · cases hs
  · rename_i hp
    change ofBody g.name _ entry = _
    rw [ofBody, hp]
    exact hs
  · cases hs

variable (h : List.Forall₂ SameReading (bodyLines f.lines) (bodyLines g.lines))
include h

theorem afterEntry_congr : List.Forall₂ SameReading (afterEntry (bodyLines f.lines)) (afterEntry (bodyLines g.lines)) :=
  forall₂_dropWhile h fun _ _ hr => by rw [hr.entry]

/-- Functions of one name whose lines are read alike have the same fault, or shapes that differ in their bodies. -/
theorem ofFunction_congr (hname : f.name = g.name) :
    ofFunction g = (ofFunction f).map fun shape => { shape with body := afterEntry (bodyLines g.lines) } := by
  have hforms : entryForms (bodyLines f.lines) = entryForms (bodyLines g.lines) :=
    filterMap_eq_of_forall₂ (forall₂_takeWhile h fun _ _ hr => by rw [hr.entry]) fun _ _ hr => hr.entry
  rw [ofFunction_eq_bind, ofFunction_eq_bind, hforms, hname]
  cases Entry.ofForms (entryForms (bodyLines g.lines)) with
  | error fault => rfl
  | ok entry => exact ofBody_congr (afterEntry_congr h) g.name entry

/-- A function whose lines are read like those of one that has a shape has that shape, with lines of its own. -/
theorem exists_ofFunction (hs : ofFunction f = .ok shape) :
    ∃ other, ofFunction g = .ok other ∧ List.Forall₂ SameReading shape.body other.body ∧
      other.epilogue = shape.epilogue ∧ other.offsetToFirst = shape.offsetToFirst := by
  have hnamed : ofFunction { g with name := f.name } = .ok { shape with body := afterEntry (bodyLines g.lines) } := by
    rw [ofFunction_congr (g := { g with name := f.name }) h rfl, hs]
    rfl
  obtain ⟨-, -, -, -, hbody⟩ := exists_of_ofFunction hs
  refine ⟨_, ofFunction_of_lines_eq (f := { g with name := f.name }) rfl hnamed, ?_, rfl, rfl⟩
  rw [hbody]
  exact afterEntry_congr h

end Shape

end AsmBridge
