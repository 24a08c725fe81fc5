import AsmBridge.Files.Store
import AsmBridge.Proofs.Entries
import AsmBridge.Proofs.Fault
import Mathlib.Data.List.Infix

/-!
# Written files

A text that is written to a path is all that is in the file there, and every other place has what it had.
-/

namespace AsmBridge

namespace Store

/-- Whether a store is another one with exactly the file at a path created or replaced. -/
def Replaces (s after : Store) (path : Path) (text : Text) : Prop :=
  ∃ l, s.locate path = .ok l ∧ s.node? l ≠ some .directory ∧ after.node? l = some (.file (Utf8.encode text)) ∧
    ∀ other, other ≠ l → after.node? other = s.node? other

/-! ## Directories along a path -/

/-- Whether all places on the way to a place are directories. -/
def Leads (s : Store) (l : Location) : Prop :=
  ∀ front, front <+: l.down → front ≠ l.down → s.node? { l with down := front } = some .directory

theorem leads_start (s : Store) (path : Path) : s.Leads (.start path) := by
  have hdown : (Location.start path).down = [] := by
    unfold Location.start
    split <;> rfl
  intro front hp hne
  rw [hdown] at hp hne
  exact absurd (List.prefix_nil.mp hp) hne

theorem Leads.parent {s : Store} {l : Location} (h : s.Leads l) : s.Leads l.parent := by
  obtain ⟨up, down⟩ := l
  unfold Location.parent
  cases down with
  | nil => exact fun front hp hne => absurd (List.prefix_nil.mp hp) hne
  | cons name names =>
      intro front hp hne
      have hlast := List.dropLast_prefix (name :: names)
      refine h front (hp.trans hlast) fun he => ?_
      -- A part of all but the last component is no whole.
      have hlength := hp.length_le
      rw [he] at hlength
      simp only [List.length_dropLast, List.length_cons] at hlength
      omega

theorem Leads.child {s : Store} {l : Location} (h : s.Leads l) (hd : s.node? l = some .directory) (name : Text) :
    s.Leads (l.child name) := by
  unfold Location.child
  split
  · exact h.parent
  · intro front hp hne
    rcases List.prefix_concat_iff.mp hp with he | hp
    · exact absurd he hne
    · by_cases he : front = l.down
      · rw [he]
        exact hd
      · exact h front hp he

theorem leads_of_follow {s : Store} {path : Text} {names : List Text} {l place : Location} (h : s.Leads l)
    (hf : s.follow path l names = .ok place) : s.Leads place := by
  induction names generalizing l with
  | nil =>
      cases hf
      exact h
  | cons name names ih =>
      unfold follow at hf
      split at hf
      · rename_i hd
        split at hf
        · cases hf
        · exact ih (h.child hd name) hf
      · cases hf
      · cases hf

theorem leads_of_locate {s : Store} {path : Path} {l : Location} (h : s.locate path = .ok l) : s.Leads l := by
  unfold locate at h
  split at h
  · cases h
  · split at h
    · cases h
    · exact leads_of_follow (s.leads_start path) h

/-! ## Changed places -/

theorem lookup_put (s : Store) (l : Location) (node : Node) (other : Location) :
    (s.put l node).entries.lookup other = if other = l then some node else s.entries.lookup other := by
  have hputs : PutsEntry l node (putEntry l node) := { nil := rfl, cons := fun _ _ => rfl }
  exact hputs.lookup_eq other s.entries

theorem holdsBelow_put (s : Store) (l : Location) (node : Node) (other : Location) :
    (s.put l node).holdsBelow other = (s.holdsBelow other || (l.up == other.up && other.down.isPrefixOf l.down)) := by
  obtain ⟨entries⟩ := s
  unfold put holdsBelow
  simp only
  induction entries with
  | nil => simp [putEntry]
  | cons entry entries ih =>
      rw [putEntry]
      split
      · rename_i he
        rw [← eq_of_beq he, List.any_cons, List.any_cons]
        cases (entry.1.up == other.up && other.down.isPrefixOf entry.1.down) <;> simp
      · rw [List.any_cons, List.any_cons, ih, Bool.or_assoc]

theorem node?_put_self (s : Store) (l : Location) (node : Node) : (s.put l node).node? l = some node := by
  rw [node?, lookup_put, if_pos rfl]

/-- A file at a place that is led to by directories adds none to them. -/
theorem Leads.node?_put {s : Store} {l : Location} (h : s.Leads l) (node : Node) {other : Location} (hne : other ≠ l) :
    (s.put l node).node? other = s.node? other := by
  rw [node?, lookup_put, if_neg hne, holdsBelow_put]
  cases hon : l.up == other.up && other.down.isPrefixOf l.down with
  | false =>
      rw [Bool.or_false]
      rfl
  | true =>
      obtain ⟨hup, hp⟩ := Bool.and_eq_true_iff.mp hon
      obtain ⟨up, down⟩ := other
      obtain rfl : l.up = up := eq_of_beq hup
      have hdown : down ≠ l.down := fun he => hne (by rw [he])
      have hd := h down (List.isPrefixOf_iff_prefix.mp hp) hdown
      rw [hd]
      rw [node?] at hd
      split at hd
      · exact hd
      · simp

/-! ## Writing -/

theorem replaces_of_writeText {s after : Store} {path : Path} {text : Text} (h : s.writeText path text = .ok after) :
    s.Replaces after path text := by
  obtain ⟨l, hl, h⟩ := exists_of_bind_eq_ok h
  split at h
  · cases h
  · rename_i hd
    cases h
    exact ⟨l, hl, hd, s.node?_put_self l _, fun other hne => (leads_of_locate hl).node?_put _ hne⟩

end Store

end AsmBridge
