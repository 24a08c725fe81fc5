import AsmBridge.Fault

/-!
# Answers of conversions that may fail

A chain of conversions answers where each of them answers, and fails with the fault of the first that fails.
-/

namespace AsmBridge

/-- Whether a fault is about a number that is too long to be read or written. -/
def Fault.isOverlong : Fault → Bool
  | .tooManyDigits _ | .tooLongToWrite => true
  | _ => false

theorem Fault.isLocal_of_listing {fault : Fault} (h : fault.kind = .listing) : fault.isLocal = true := by
  rw [isLocal, h]

theorem Fault.kind_ne_value_of_isLocal {fault : Fault} (h : fault.isLocal = true) : fault.kind ≠ .value := by
  intro hk
  rw [isLocal, hk] at h
  cases h

variable {α β : Type} {b : β} {fault : Fault}

theorem ok_bind (a : α) (f : α → Except Fault β) : (.ok a : Except Fault α) >>= f = f a :=
  rfl

theorem exists_of_bind_eq_ok {x : Except Fault α} {f : α → Except Fault β} (h : x >>= f = .ok b) :
    ∃ a, x = .ok a ∧ f a = .ok b := by
  cases x with
  | error fault => cases h
  | ok a => exact ⟨a, rfl, h⟩

theorem exists_of_map_eq_ok {x : Except Fault α} {f : α → β} (h : x.map f = .ok b) : ∃ a, x = .ok a ∧ b = f a := by
  cases x with
  | error fault => cases h
  | ok a =>
      cases h
      exact ⟨a, rfl, rfl⟩

theorem cases_of_bind_eq_error {x : Except Fault α} {f : α → Except Fault β} (h : x >>= f = .error fault) :
    x = .error fault ∨ ∃ a, x = .ok a ∧ f a = .error fault := by
  cases x with
  | error other =>
      cases h
      exact .inl rfl
  | ok a => exact .inr ⟨a, rfl, h⟩

theorem eq_error_of_map {x : Except Fault α} {f : α → β} (h : x.map f = .error fault) : x = .error fault := by
  cases x with
  | error other =>
      cases h
      rfl
  | ok a => cases h

end AsmBridge
