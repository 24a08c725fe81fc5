import AsmBridge.Listing.Shape
import AsmBridge.Proofs.Text.Cut

/-!
# Forms of instructions

How the instructions of entry and exit sequences are written in normal form, and which numbers they have. A form is found
exactly where it is written.
-/

namespace AsmBridge

/-! ## Forms as they are written -/

/-- Whether a normal form is that of an instruction of an entry sequence. -/
inductive EntryForm.Spells : EntryForm → Text → Prop
  | pushFramePointer : Spells .pushFramePointer "push rbp".toList
  | setFramePointer : Spells .setFramePointer "mov rbp, rsp".toList
  | pushRegister {name : Text} (hn : isRegisterName name = true) (hf : name ≠ "rbp".toList) :
      Spells .pushRegister ("push ".toList ++ name)
  | round {number : Text} (hn : isSignedNumber number = true) : Spells (.round number) ("and rsp, ".toList ++ number)
  | reserve {number : Text} (hn : isNumber number = true) : Spells (.reserve number) ("sub rsp, ".toList ++ number)

/-- The number of an instruction, if it has one. -/
def EntryForm.number : EntryForm → Text
  | .round mask => mask
  | .reserve size => size
  | _ => []

/-- The value of a decimal number, after a minus sign or not. -/
def Decimal.signedValue : Text → Int
  | '-' :: digits => -(value digits : Int)
  | digits => (value digits : Int)

/-- The mask of an instruction that rounds the stack pointer. -/
def EntryForm.mask? : EntryForm → Option Int
  | .round number => some (Decimal.signedValue number)
  | _ => none

/-- The size that an instruction reserves. -/
def EntryForm.size? : EntryForm → Option Int
  | .reserve number => some (Decimal.value number)
  | _ => none

/-- Whether a normal form is that of an instruction before the return of an exit sequence. -/
inductive ExitSpells : Text → Prop
  | clearUpper : ExitSpells "vzeroupper".toList
  | popRegister {name : Text} (hn : isRegisterName name = true) : ExitSpells ("pop ".toList ++ name)
  | restore : ExitSpells "mov rsp, rbp".toList
  | address {number : Text} (hn : isNumber number = true) : ExitSpells ("lea rsp, [rbp - ".toList ++ (number ++ "]".toList))
  | free {number : Text} (hn : isNumber number = true) : ExitSpells ("add rsp, ".toList ++ number)

/-- The number of an instruction stands at its end. -/
theorem EntryForm.Spells.number_suffix {form : EntryForm} {t : Text} (h : form.Spells t) : form.number <:+ t := by
  cases h with
  | round => exact List.suffix_append _ _
  | reserve => exact List.suffix_append _ _
  | pushFramePointer => exact List.nil_suffix
  | setFramePointer => exact List.nil_suffix
  | pushRegister => exact List.nil_suffix

theorem opensWith_iff {opening t : Text} {rest : Text → Bool} :
    opensWith opening rest t = true ↔ ∃ r, t = opening ++ r ∧ rest r = true := by
  rw [opensWith, Option.any_eq_true]
  constructor
  · rintro ⟨r, hr, hrest⟩
    exact ⟨r, Text.eq_append_of_after? hr, hrest⟩
  · rintro ⟨r, rfl, hrest⟩
    exact ⟨r, Text.after?_append opening r, hrest⟩

/-! ## Entry sequences -/

namespace EntryForm

variable {t : Text} {form : EntryForm}

theorem spells_of_ofText? (h : ofText? t = some form) : form.Spells t := by
  unfold ofText? at h
  split at h
  · rename_i he
    cases h
    exact eq_of_beq he ▸ .pushFramePointer
  · rename_i hpush
    split at h
    · rename_i he
      cases h
      exact eq_of_beq he ▸ .setFramePointer
    · split at h
      · rename_i hregister
        cases h
        obtain ⟨name, rfl, hn⟩ := opensWith_iff.mp hregister
        refine .pushRegister hn ?_
        rintro rfl
        exact hpush rfl
      · split at h
        · rename_i number _ hnumber
          split at h
          · rename_i hn
            cases h
            exact Text.eq_append_of_after? hnumber ▸ .round hn
          · cases h
        · rename_i number _ hnumber
          split at h
          · rename_i hn
            cases h
            exact Text.eq_append_of_after? hnumber ▸ .reserve hn
          · cases h
        · cases h

theorem ofText?_of_spells (h : form.Spells t) : ofText? t = some form := by
  cases h with
  | pushFramePointer => rfl
  | setFramePointer => rfl
  | pushRegister hn hf =>
      rename_i name
      have hpush : ("push ".toList ++ name == "push rbp".toList) = false :=
        beq_eq_false_iff_ne.mpr fun he => hf (List.append_cancel_left he)
      have hmove : ("push ".toList ++ name == "mov rbp, rsp".toList) = false := rfl
      have hregister : opensWith "push ".toList isRegisterName ("push ".toList ++ name) = true :=
        opensWith_iff.mpr ⟨name, rfl, hn⟩
      simp only [ofText?, hpush, hmove, hregister, Bool.false_eq_true, ↓reduceIte]
  | round hn =>
      rename_i number
      have hother : ("and rsp, ".toList ++ number == "push rbp".toList) = false ∧
          ("and rsp, ".toList ++ number == "mov rbp, rsp".toList) = false ∧
          opensWith "push ".toList isRegisterName ("and rsp, ".toList ++ number) = false := ⟨rfl, rfl, rfl⟩
      simp only [ofText?, hother, Text.after?_append, hn, Bool.false_eq_true, ↓reduceIte]
  | reserve hn =>
      rename_i number
      have hother : ("sub rsp, ".toList ++ number == "push rbp".toList) = false ∧
          ("sub rsp, ".toList ++ number == "mov rbp, rsp".toList) = false ∧
          opensWith "push ".toList isRegisterName ("sub rsp, ".toList ++ number) = false ∧
          Text.after? ("sub rsp, ".toList ++ number) "and rsp, ".toList = none := ⟨rfl, rfl, rfl, rfl⟩
      simp only [ofText?, hother, Text.after?_append, hn, Bool.false_eq_true, ↓reduceIte]

/-- A form is found exactly where it is written. -/
theorem ofText?_eq_some_iff : ofText? t = some form ↔ form.Spells t :=
  ⟨spells_of_ofText?, ofText?_of_spells⟩

theorem isSome_ofLine?_iff {line : Text} : (ofLine? line).isSome = true ↔ ∃ form : EntryForm, form.Spells (normalize line) := by
  rw [Option.isSome_iff_exists]
  exact exists_congr fun form => ofText?_eq_some_iff

end EntryForm

/-! ## Exit sequences -/

theorem isNumberInBracket_iff {t : Text} :
    isNumberInBracket t = true ↔ ∃ number, t = number ++ "]".toList ∧ isNumber number = true := by
  simp only [isNumberInBracket, isNumber, Bool.and_eq_true, Bool.not_eq_true', beq_iff_eq]
  constructor
  · rintro ⟨hne, hbracket⟩
    exact ⟨t.takeWhile isDecimalDigit, by rw [← hbracket, List.takeWhile_append_dropWhile], hne, List.all_takeWhile⟩
  · rintro ⟨number, rfl, hne, hdigits⟩
    have hall : ∀ c ∈ number, isDecimalDigit c = true := List.all_eq_true.mp hdigits
    have hbracket : isDecimalDigit ']' = false := by decide
    rw [List.takeWhile_append_of_pos hall, List.dropWhile_append_of_pos hall]
    simp [hbracket, hne]

theorem isExitForm_iff {line : Text} : isExitForm line = true ↔ ExitSpells (normalize line) := by
  simp only [isExitForm, Bool.or_eq_true, beq_iff_eq, opensWith_iff, isNumberInBracket_iff]
  constructor
  · rintro ((((h | ⟨name, h, hn⟩) | h) | ⟨r, h, number, rfl, hn⟩) | ⟨number, h, hn⟩) <;> rw [h]
    · exact .clearUpper
    · exact .popRegister hn
    · exact .restore
    · exact .address hn
    · exact .free hn
  · intro h
    generalize normalize line = t at h
    cases h with
    | clearUpper => exact .inl (.inl (.inl (.inl rfl)))
    | popRegister hn => exact .inl (.inl (.inl (.inr ⟨_, rfl, hn⟩)))
    | restore => exact .inl (.inl (.inr rfl))
    | address hn => exact .inl (.inr ⟨_, rfl, _, rfl, hn⟩)
    | free hn => exact .inr ⟨_, rfl, hn⟩

end AsmBridge
