import AsmBridge.Text.Basic

/-!
# Lists of entries

What a look-up gives is an entry of the list. An entry that is put into a list changes what is found for its name only.
-/

namespace AsmBridge

variable {α β : Type}

theorem mem_of_lookup_eq_some [BEq α] [LawfulBEq α] {key : α} {value : β} {entries : List (α × β)}
    (h : entries.lookup key = some value) : (key, value) ∈ entries := by
  obtain ⟨front, back, rfl, -⟩ := List.lookup_eq_some_iff.mp h
  exact List.mem_append_right front List.mem_cons_self

theorem lookup_eq_some_iff_mem [BEq α] [LawfulBEq α] {key : α} {value : β} {entries : List (α × β)}
    (h : (entries.map (·.1)).Nodup) : entries.lookup key = some value ↔ (key, value) ∈ entries := by
  refine ⟨mem_of_lookup_eq_some, fun hm => ?_⟩
  obtain ⟨front, back, rfl⟩ := List.append_of_mem hm
  refine List.lookup_eq_some_iff.mpr ⟨front, back, rfl, fun entry he => ?_⟩
  rw [List.map_append, List.map_cons, List.nodup_append] at h
  exact bne_iff_ne.mpr (h.2.2 entry.1 (List.mem_map_of_mem he) key List.mem_cons_self).symm

/-- Whether a function puts a value in the place of the one that a name has, or behind all entries. -/
structure PutsEntry [BEq α] (name : α) (value : β) (put : List (α × β) → List (α × β)) : Prop where
  nil : put [] = [(name, value)]
  cons : ∀ entry entries,
    put (entry :: entries) = if entry.1 == name then (name, value) :: entries else entry :: put entries

theorem PutsEntry.lookup_eq [BEq α] [LawfulBEq α] [DecidableEq α] {name : α} {value : β} {put : List (α × β) → List (α × β)}
    (h : PutsEntry name value put) (other : α) (entries : List (α × β)) :
    (put entries).lookup other = if other = name then some value else entries.lookup other := by
  have hhead (rest : List (α × β)) :
      ((name, value) :: rest).lookup other = if other = name then some value else rest.lookup other := by
    rw [List.lookup_cons]
    cases hb : other == name with
    | true => rw [if_pos (eq_of_beq hb)]
    | false => rw [if_neg (ne_of_beq_false hb)]
  induction entries with
  | nil => rw [h.nil, hhead]
  | cons entry entries ih =>
      obtain ⟨first, old⟩ := entry
      rw [h.cons]
      by_cases hf : first = name
      · subst hf
        rw [if_pos BEq.rfl, hhead, List.lookup_cons]
        cases hb : other == first with
        | true => rw [if_pos (eq_of_beq hb), if_pos (eq_of_beq hb)]
        | false => rfl
      · rw [if_neg (by simpa using hf), List.lookup_cons, List.lookup_cons, ih]
        cases hb : other == first with
        | true => exact (if_neg fun ho => hf (eq_of_beq hb ▸ ho)).symm
        | false => rfl

end AsmBridge
