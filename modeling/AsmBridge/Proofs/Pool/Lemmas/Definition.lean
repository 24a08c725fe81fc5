import AsmBridge.Pool.Basic
import AsmBridge.Proofs.Entries

/-!
# Definitions of a listing

A label keeps the place of its last definition, and no line changes the bytes that are there when it is read.
-/

namespace AsmBridge

theorem lookup_putLabel (name other : Text) (offset : Nat) (labels : List (Text × Nat)) :
    (putLabel name offset labels).lookup other = if other = name then some offset else labels.lookup other := by
  have hputs : PutsEntry name offset (putLabel name offset) := { nil := rfl, cons := fun _ _ => rfl }
  exact hputs.lookup_eq other labels

theorem mem_putLabel {name : Text} {offset : Nat} {labels : List (Text × Nat)} {entry : Text × Nat}
    (h : entry ∈ putLabel name offset labels) : entry = (name, offset) ∨ entry ∈ labels := by
  induction labels with
  | nil => exact .inl (List.mem_singleton.mp h)
  | cons first labels ih =>
      rw [putLabel] at h
      split at h
      · exact (List.mem_cons.mp h).imp_right (List.mem_cons_of_mem first)
      · rcases List.mem_cons.mp h with rfl | h
        · exact .inr List.mem_cons_self
        · exact (ih h).imp_right (List.mem_cons_of_mem first)

theorem names_prefix_putLabel (name : Text) (offset : Nat) (labels : List (Text × Nat)) :
    labels.map (·.1) <+: (putLabel name offset labels).map (·.1) := by
  induction labels with
  | nil => exact List.nil_prefix
  | cons first labels ih =>
      rw [putLabel]
      split
      · rename_i he
        have hnames : (first :: labels).map (·.1) = ((name, offset) :: labels).map (·.1) := by
          rw [List.map_cons, List.map_cons, eq_of_beq he]
        exact hnames ▸ List.prefix_refl _
      · exact (List.prefix_cons_inj first.1).mpr ih

theorem nodup_names_putLabel {labels : List (Text × Nat)} (h : (labels.map (·.1)).Nodup) (name : Text) (offset : Nat) :
    ((putLabel name offset labels).map (·.1)).Nodup := by
  induction labels with
  | nil => exact List.pairwise_singleton _ _
  | cons first labels ih =>
      obtain ⟨hfirst, hrest⟩ := List.nodup_cons.mp h
      rw [putLabel]
      split
      · rename_i he
        exact List.nodup_cons.mpr ⟨eq_of_beq he ▸ hfirst, hrest⟩
      · rename_i he
        refine List.nodup_cons.mpr ⟨fun hm => ?_, ih hrest⟩
        obtain ⟨entry, hentry, hname⟩ := List.mem_map.mp hm
        rcases mem_putLabel hentry with rfl | hmem
        · exact he (beq_iff_eq.mpr hname.symm)
        · exact hfirst (hname ▸ List.mem_map_of_mem hmem)

namespace Pool

variable {p q before : Pool} {number : Nat} {lines : List Text} {name : Text}

/-- The names that lines define in sections with constants. -/
def definitions (p : Pool) (number : Nat) : List Text → List Text
  | [] => []
  | line :: lines =>
    (if p.inConstants then (label? line).toList else []) ++ (p.readLine number line).1.definitions (number + 1) lines

/-- Whether lines define a name for the last time where the pool is `before`. -/
def DefinesLast (p : Pool) (number : Nat) (lines : List Text) (name : Text) (before : Pool) : Prop :=
  ∃ above line below, lines = above ++ line :: below ∧ p.readLines number above = (before, none) ∧
    before.inConstants = true ∧ label? line = some name ∧
      name ∉ (before.define name).definitions (number + above.length + 1) below

/-! ## One line -/

theorem readLine_of_label? {line : Text} (h : label? line = some name) : p.readLine number line = (p.define name, none) := by
  rw [readLine, h]

theorem data_define : (p.define name).data = p.data := by
  unfold define
  split <;> rfl

/-- Whether a pool has the labels of another one, and its bytes in front. -/
structure Extends (p q : Pool) : Prop where
  labels : q.labels = p.labels
  data : p.data <+: q.data

theorem Extends.refl (p : Pool) : p.Extends p :=
  ⟨rfl, List.prefix_refl _⟩

theorem extends_feed (p : Pool) (directive : Text) (operands : List Text) : p.Extends (p.feed directive operands).1 := by
  unfold feed
  split
  · exact ⟨rfl, List.prefix_refl _⟩
  · split
    · exact .refl p
    · exact ⟨rfl, List.prefix_append _ _⟩

/-- A line that is no label adds bytes at most. -/
theorem extends_readLine {line : Text} (h : label? line = none) : p.Extends (p.readLine number line).1 := by
  rw [readLine, h]
  simp only
  split
  · exact .refl p
  · rename_i directive args _
    have hf := p.extends_feed directive.toLower (splitOperands args)
    split
    · rename_i q hq
      rwa [hq] at hf
    · rename_i q fault hq
      rw [hq] at hf
      split
      · exact ⟨hf.labels, hf.data⟩
      · exact hf

theorem data_prefix_readLine (p : Pool) (number : Nat) (line : Text) : p.data <+: (p.readLine number line).1.data := by
  cases hl : label? line with
  | none => exact (extends_readLine hl).data
  | some name => exact ⟨[], by rw [List.append_nil, readLine_of_label? hl, data_define]⟩

/-- A line puts a name where it defines it in a section with constants, and leaves all other names. -/
theorem lookup_labels_readLine (p : Pool) (number : Nat) (line name : Text) :
    (p.readLine number line).1.labels.lookup name =
      if p.inConstants = true ∧ label? line = some name then some p.data.length else p.labels.lookup name := by
  cases hl : label? line with
  | none => rw [(extends_readLine hl).labels, if_neg (by simp)]
  | some other =>
      rw [readLine_of_label? hl, define]
      cases hp : p.inConstants with
      | false => simp
      | true => simp only [↓reduceIte, lookup_putLabel, Option.some.injEq, true_and, eq_comm]

theorem readLines_cons_eq_none {line : Text} (h : p.readLines number (line :: lines) = (q, none)) :
    ∃ next, p.readLine number line = (next, none) ∧ next.readLines (number + 1) lines = (q, none) := by
  rw [readLines] at h
  split at h
  · rename_i next hn
    exact ⟨next, hn, h⟩
  · cases h

/-! ## All lines -/

theorem readLines_of_ofListing (h : ofListing lines = .ok p) : ({} : Pool).readLines 1 lines = (p, none) := by
  unfold ofListing at h
  split at h
  · rename_i hr
    cases h
    exact hr
  · cases h

theorem data_prefix_readLines (h : p.readLines number lines = (q, none)) : p.data <+: q.data := by
  induction lines generalizing p number with
  | nil =>
      cases h
      exact List.prefix_refl _
  | cons line lines ih =>
      obtain ⟨next, hn, h⟩ := readLines_cons_eq_none h
      have hline := data_prefix_readLine p number line
      rw [hn] at hline
      exact hline.trans (ih h)

theorem DefinesLast.cons {line : Text} {next : Pool} (hn : p.readLine number line = (next, none))
    (h : next.DefinesLast (number + 1) lines name before) : p.DefinesLast number (line :: lines) name before := by
  obtain ⟨above, last, below, rfl, hr, hc, hl, hm⟩ := h
  refine ⟨line :: above, last, below, rfl, ?_, hc, hl, ?_⟩
  · rw [readLines, hn]
    exact hr
  · rwa [List.length_cons, Nat.add_comm above.length, ← Nat.add_assoc]

/-- What is noted under a name is the length of the bytes in front of its last definition. -/
theorem lookup_labels_readLines (h : p.readLines number lines = (q, none)) {offset : Nat}
    (ho : q.labels.lookup name = some offset) :
    (∃ before, p.DefinesLast number lines name before ∧ offset = before.data.length ∧ before.data <+: q.data) ∨
      p.labels.lookup name = some offset ∧ name ∉ p.definitions number lines := by
  induction lines generalizing p number with
  | nil =>
      cases h
      exact .inr ⟨ho, List.not_mem_nil⟩
  | cons line lines ih =>
      obtain ⟨next, hn, hrest⟩ := readLines_cons_eq_none h
      rcases ih hrest with ⟨before, hd, hb⟩ | ⟨hl, hm⟩
      · exact .inl ⟨before, hd.cons hn, hb⟩
      · have hline := lookup_labels_readLine p number line name
        rw [hn, hl] at hline
        by_cases hc : p.inConstants = true ∧ label? line = some name
        · rw [if_pos hc] at hline
          cases hline
          have hnext : next = p.define name := by
            rw [readLine_of_label? hc.2] at hn
            cases hn
            rfl
          exact .inl ⟨p, ⟨[], line, lines, rfl, rfl, hc.1, hc.2, hnext ▸ hm⟩, rfl, data_prefix_readLines h⟩
        · rw [if_neg hc] at hline
          refine .inr ⟨hline.symm, ?_⟩
          rw [definitions, hn, List.mem_append, not_or]
          refine ⟨fun hmem => hc ?_, hm⟩
          split at hmem
          · rename_i hp
            exact ⟨hp, Option.mem_toList.mp hmem⟩
          · cases hmem

/-- A label of a listing is where its last definition is. -/
theorem exists_definesLast {pool : Pool} (h : ofListing lines = .ok pool) {offset : Nat}
    (ho : pool.labels.lookup name = some offset) :
    ∃ before, ({} : Pool).DefinesLast 1 lines name before ∧ offset = before.data.length ∧ before.data <+: pool.data := by
  rcases lookup_labels_readLines (readLines_of_ofListing h) ho with hd | ⟨hl, -⟩
  · exact hd
  · cases hl

/-! ## Offsets -/

/-- Whether the labels have different names, and lie within the bytes or at their end. -/
structure WellPlaced (p : Pool) : Prop where
  nodup : (p.labels.map (·.1)).Nodup
  offset_le : ∀ entry ∈ p.labels, entry.2 ≤ p.data.length

theorem wellPlaced_empty : ({} : Pool).WellPlaced :=
  ⟨List.nodup_nil, List.forall_mem_nil _⟩

theorem Extends.wellPlaced (h : p.Extends q) (hp : p.WellPlaced) : q.WellPlaced where
  nodup := h.labels ▸ hp.nodup
  offset_le entry he := Nat.le_trans (hp.offset_le entry (h.labels ▸ he)) h.data.length_le

theorem wellPlaced_define (h : p.WellPlaced) (name : Text) : (p.define name).WellPlaced := by
  refine ⟨?_, ?_⟩
  · rw [define]
    split
    · exact nodup_names_putLabel h.nodup name p.data.length
    · exact h.nodup
  · rw [data_define, define]
    split
    · intro entry he
      rcases mem_putLabel he with rfl | he
      · exact Nat.le_refl _
      · exact h.offset_le entry he
    · exact h.offset_le

theorem wellPlaced_readLine (h : p.WellPlaced) (number : Nat) (line : Text) : (p.readLine number line).1.WellPlaced := by
  cases hl : label? line with
  | none => exact (extends_readLine hl).wellPlaced h
  | some name =>
      rw [readLine_of_label? hl]
      exact wellPlaced_define h name

theorem wellPlaced_readLines (hp : p.WellPlaced) (h : p.readLines number lines = (q, none)) : q.WellPlaced := by
  induction lines generalizing p number with
  | nil =>
      cases h
      exact hp
  | cons line lines ih =>
      obtain ⟨next, hn, h⟩ := readLines_cons_eq_none h
      have hline := wellPlaced_readLine hp number line
      rw [hn] at hline
      exact ih hline h

theorem wellPlaced_of_ofListing (h : ofListing lines = .ok p) : p.WellPlaced :=
  wellPlaced_readLines wellPlaced_empty (readLines_of_ofListing h)

theorem WellPlaced.nodup_table (h : p.WellPlaced) (table : Text) : ((p.table table).labels.map (·.name)).Nodup := by
  have hnames : (p.table table).labels.map (·.name) = p.labels.map (·.1) := by
    rw [Pool.table, List.map_map]
    rfl
  exact hnames ▸ h.nodup

theorem WellPlaced.offset_table (h : p.WellPlaced) (table : Text) :
    ∀ label ∈ (p.table table).labels, 0 ≤ label.offset ∧ label.offset ≤ p.data.length :=
  List.forall_mem_map.mpr fun entry he => ⟨Int.natCast_nonneg entry.2, Int.ofNat_le.mpr (h.offset_le entry he)⟩

end Pool

end AsmBridge
