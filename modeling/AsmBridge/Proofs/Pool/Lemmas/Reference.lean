import AsmBridge.Pool.Basic
import AsmBridge.Pool.Reference
import AsmBridge.Proofs.Line.Lemmas.Operand

/-!
# References and the labels they need

A function gets the labels that its lines refer to, at the places that they have in the pool.
-/

namespace AsmBridge

/-! ## References of a line -/

theorem referenceAt?_append {s : Text} (hn : s ≠ []) (hs : ']' ∉ s) (rest : Text) :
    referenceAt? (ripOpening ++ (s ++ ']' :: rest)) = some (s, rest) := by
  have hdrop : (s ++ ']' :: rest).dropWhile (· != ']') = ']' :: rest := by
    rw [Text.dropWhile_append_cons (by decide), List.dropWhile_eq_nil_iff.mpr, List.nil_append]
    exact fun c hc => bne_iff_ne.mpr (ne_of_mem_of_not_mem hc hs)
  obtain ⟨c, r, rfl⟩ := List.exists_cons_of_ne_nil hn
  simp only [referenceAt?, Text.after?_append, Text.takeWhile_ne_append_cons hs, hdrop]

theorem exists_of_referenceAt? {t name tail : Text} (h : referenceAt? t = some (name, tail)) :
    name ≠ [] ∧ ']' ∉ name ∧ t = ripOpening ++ (name ++ ']' :: tail) := by
  unfold referenceAt? at h
  split at h
  · cases h
  · rename_i rest hr
    split at h
    · rename_i c r d tail' htake hdrop
      cases h
      have hd := List.head?_dropWhile_not (· != ']') rest
      rw [hdrop] at hd
      obtain rfl : d = ']' := by simpa using hd
      refine ⟨List.cons_ne_nil c r, fun hm => ?_, ?_⟩
      · rw [← htake] at hm
        exact absurd (List.all_eq_true.mp List.all_takeWhile _ hm) (by decide)
      · rw [Text.eq_append_of_after? hr, ← htake, ← hdrop, List.takeWhile_append_dropWhile]
    · cases h

theorem references_of_eq_some {t name tail : Text} (h : referenceAt? t = some (name, tail)) :
    references t = name.trim :: references tail := by
  cases t with
  | nil => cases h
  | cons c r =>
      rw [references]
      split
      · rename_i hsome
        rw [h] at hsome
        cases hsome
        rfl
      · rename_i hnone
        rw [h] at hnone
        cases hnone

theorem references_of_eq_none {c : Char} {t : Text} (h : referenceAt? (c :: t) = none) : references (c :: t) = references t := by
  rw [references]
  split
  · rename_i hsome
    rw [h] at hsome
    cases hsome
  · rfl

theorem references_cons {c : Char} {t : Text} (h : ¬ ripOpening <+: c :: t) : references (c :: t) = references t := by
  refine references_of_eq_none ?_
  rw [referenceAt?, Text.after?_eq_none_iff.mpr h]

theorem references_eq_nil {t : Text} (h : ¬ ripOpening <:+: t) : references t = [] := by
  induction t with
  | nil => rw [references]
  | cons c t ih =>
      rw [List.infix_cons_iff, not_or] at h
      rw [references_cons h.1, ih h.2]

/-- The first operand of a line is among its references. -/
theorem references_append {before s : Text} (hb : '[' ∉ before) (hn : s ≠ []) (hs : ']' ∉ s) (rest : Text) :
    references (before ++ (ripOpening ++ (s ++ ']' :: rest))) = s.trim :: references rest := by
  induction before with
  | nil => exact references_of_eq_some (referenceAt?_append hn hs rest)
  | cons c before ih =>
      have hp : ¬ ripOpening <+: c :: (before ++ (ripOpening ++ (s ++ ']' :: rest))) := by
        rw [ripOpening_eq, List.cons_prefix_cons]
        exact fun hp => List.ne_of_not_mem_cons hb hp.1
      rw [List.cons_append, references_cons hp, ih (List.not_mem_of_not_mem_cons hb)]

/-- A text with one operand in brackets refers to the constant that this operand names. -/
theorem references_bracketed {before inner rest : Text} (hb : '[' ∉ before) (ho : '[' ∉ inner) (hc : ']' ∉ inner)
    (hn : inner ≠ "rip + ".toList) (hr : ¬ ripOpening <:+: rest) :
    references (before ++ '[' :: (inner ++ ']' :: rest)) = ((inner.after? "rip + ".toList).map Text.trim).toList := by
  cases ha : inner.after? "rip + ".toList with
  | some symbol =>
      obtain rfl := Text.eq_append_of_after? ha
      have hs : symbol ≠ [] := fun h => hn (by rw [h, List.append_nil])
      have hclosed : ']' ∉ symbol := fun hm => hc (List.mem_append_right _ hm)
      have hrefs := references_append hb hs hclosed rest
      rw [ripOpening_eq, List.cons_append] at hrefs
      rw [List.append_assoc, hrefs, references_eq_nil hr]
      rfl
  | none =>
      have hx : ¬ ripOpening <:+: before ++ '[' :: inner := by
        rw [← Text.cut?_eq_none_iff, ripOpening_eq, Text.cut?_append_cons hb ho, ha]
        rfl
      have hall := Text.not_infix_append_cons (by decide : ']' ∉ ripOpening) hx hr
      rw [List.append_assoc, List.cons_append] at hall
      exact references_eq_nil hall

theorem references_eq_nil_of_not_mem {t : Text} (h : ']' ∉ t) : references t = [] := by
  induction t with
  | nil => rw [references]
  | cons c t ih =>
      rw [references_of_eq_none, ih fun hm => h (List.mem_cons_of_mem c hm)]
      cases hr : referenceAt? (c :: t) with
      | none => rfl
      | some found =>
          rw [(exists_of_referenceAt? hr).2.2] at h
          exact absurd (List.mem_append_right _ (List.mem_append_right _ List.mem_cons_self)) h

/-- An operand is closed by the first bracket behind it, so that none comes in front of a reference where text follows. -/
theorem referenceAt?_append_eq_none {t : Text} (h : referenceAt? t = none) (hm : ']' ∈ t) (rest : Text) :
    referenceAt? (t ++ rest) = none := by
  cases hr : referenceAt? (t ++ rest) with
  | none => rfl
  | some found =>
      obtain ⟨hn, hc, he⟩ := exists_of_referenceAt? hr
      obtain ⟨front, back, rfl, hf⟩ := List.eq_append_cons_of_mem hm
      rw [List.append_assoc, List.cons_append, ← List.append_assoc ripOpening] at he
      have hclosed : ']' ∉ ripOpening ++ found.1 := by
        rw [List.mem_append, not_or]
        exact ⟨by decide, hc⟩
      obtain ⟨rfl, -⟩ := Text.append_cons_inj hf hclosed he
      rw [List.append_assoc, referenceAt?_append hn hc] at h
      cases h

/-- The first reference of a text stays the first one where text follows. -/
theorem head?_references_append {t name : Text} (h : (references t).head? = some name) (rest : Text) :
    (references (t ++ rest)).head? = some name := by
  induction t with
  | nil =>
      rw [references] at h
      cases h
  | cons c t ih =>
      cases hr : referenceAt? (c :: t) with
      | some found =>
          obtain ⟨hn, hc, he⟩ := exists_of_referenceAt? hr
          rw [references_of_eq_some hr] at h
          have happend := referenceAt?_append hn hc (found.2 ++ rest)
          rw [he, List.append_assoc, List.append_assoc, List.cons_append, references_of_eq_some happend]
          exact h
      | none =>
          rw [references_of_eq_none hr] at h
          have hm : ']' ∈ c :: t := by
            by_contra hm
            rw [references_eq_nil_of_not_mem fun ht => hm (List.mem_cons_of_mem c ht)] at h
            cases h
          have hnone := referenceAt?_append_eq_none hr hm rest
          rw [List.cons_append] at hnone ⊢
          rw [references_of_eq_none hnone]
          exact ih h

/-! ## Labels of a table -/

namespace Table

variable {table used : Table} {names : List Text} {name : Text}

theorem lookup?_restrict (h : name ∈ names) : (table.restrict names).lookup? name = table.lookup? name := by
  rw [lookup?, lookup?, restrict, List.find?_filter]
  congr 1
  funext label
  by_cases hl : label.name = name
  · simp [hl, h]
  · simp [hl]

theorem lookup?_restrict_of_not_mem (h : name ∉ names) : (table.restrict names).lookup? name = none := by
  rw [lookup?, restrict, List.find?_eq_none]
  intro label hl heq
  rw [List.mem_filter, List.contains_iff_mem] at hl
  exact h (eq_of_beq heq ▸ hl.2)

theorem isPresent_of_lookup? {label : Label} (h : table.lookup? name = some label) : table.isPresent = true := by
  rw [isPresent, Bool.not_eq_true', List.isEmpty_eq_false_iff]
  exact List.ne_nil_of_mem (List.mem_of_find?_eq_some h)

/-- Whether a table has a label of a name. -/
def Has (table : Table) (name : Text) : Prop :=
  ∃ label ∈ table.labels, label.name = name

/-- Whether a name is the first one of a list that has no label in a table. -/
def IsFirstUnknown (table : Table) (names : List Text) (symbol : Text) : Prop :=
  ¬ table.Has symbol ∧ ∃ front back, names = front ++ symbol :: back ∧ ∀ name ∈ front, table.Has name

theorem isSome_lookup?_iff : (table.lookup? name).isSome = true ↔ table.Has name := by
  simp [lookup?, List.find?_isSome, Has]

theorem isNone_lookup?_iff : (table.lookup? name).isNone = true ↔ ¬ table.Has name := by
  rw [← isSome_lookup?_iff, Bool.not_eq_true, Option.isSome_eq_false_iff]

end Table

section

variable {table used : Table} {lines : List Text}

/-- Lines are refused with the first symbol that has no label. -/
theorem restrictTable_eq_error_iff {fault : Fault} : restrictTable table lines = .error fault ↔
    ∃ symbol, fault = .unresolved symbol ∧ table.IsFirstUnknown (lines.flatMap references) symbol := by
  have hfind (symbol : Text) : (lines.flatMap references).find? (fun name => (table.lookup? name).isNone) = some symbol ↔
      table.IsFirstUnknown (lines.flatMap references) symbol := by
    rw [List.find?_eq_some_iff_append, Table.isNone_lookup?_iff, Table.IsFirstUnknown]
    simp only [Bool.not_eq_true', ← Bool.not_eq_true, Table.isNone_lookup?_iff, not_not]
  simp only [← hfind, restrictTable]
  split
  · rename_i symbol hsymbol
    simp [hsymbol, eq_comm]
  · rename_i hnone
    simp [hnone]

theorem restrictTable_eq_ok_iff : restrictTable table lines = .ok used ↔
    (∀ name ∈ lines.flatMap references, table.Has name) ∧ used = table.restrict (lines.flatMap references) := by
  have hfind : (lines.flatMap references).find? (fun name => (table.lookup? name).isNone) = none ↔
      ∀ name ∈ lines.flatMap references, table.Has name := by
    simp only [List.find?_eq_none, Table.isNone_lookup?_iff, not_not]
  simp only [← hfind, restrictTable]
  split
  · rename_i symbol hsymbol
    simp [hsymbol]
  · rename_i hnone
    simp [hnone, eq_comm]

/-- A function that gets its labels finds each of them where the table has it. -/
theorem exists_of_restrictTable (h : restrictTable table lines = .ok used) :
    used.name = table.name ∧
      ∀ name ∈ lines.flatMap references, ∃ label, table.lookup? name = some label ∧ used.lookup? name = some label := by
  obtain ⟨hknown, rfl⟩ := restrictTable_eq_ok_iff.mp h
  refine ⟨rfl, fun name hm => ?_⟩
  obtain ⟨label, hl⟩ := Option.isSome_iff_exists.mp (Table.isSome_lookup?_iff.mpr (hknown name hm))
  exact ⟨label, hl, by rw [Table.lookup?_restrict hm, hl]⟩

end

/-- A function without references gets no labels. -/
theorem restrictTable_eq_of_not_infix (table : Table) {lines : List Text} (h : ∀ line ∈ lines, ¬ ripOpening <:+: line) :
    restrictTable table lines = .ok { table with labels := [] } := by
  have hnames : lines.flatMap references = [] := List.flatMap_eq_nil_iff.mpr fun line hl => references_eq_nil (h line hl)
  have hlabels : table.restrict [] = { table with labels := [] } := by simp [Table.restrict]
  rw [restrictTable, hnames]
  exact congrArg Except.ok hlabels

theorem Pool.lookup?_table (p : Pool) (table name : Text) :
    (p.table table).lookup? name = (p.labels.lookup name).map fun offset => { name := name, offset := offset } := by
  rw [Table.lookup?, Pool.table]
  induction p.labels with
  | nil => rfl
  | cons entry labels ih =>
      obtain ⟨label, offset⟩ := entry
      rw [List.map_cons, List.find?_cons, List.lookup_cons]
      by_cases hl : label = name
      · subst hl
        simp only [BEq.rfl, Option.map_some]
      · simp only [beq_eq_false_iff_ne.mpr hl, beq_eq_false_iff_ne.mpr (Ne.symm hl)]
        exact ih

end AsmBridge
