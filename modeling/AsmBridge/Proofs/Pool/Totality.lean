import AsmBridge.Proofs.Entries
import AsmBridge.Proofs.Fault
import AsmBridge.Proofs.Listing.Section
import AsmBridge.Proofs.Pool.Lemmas.DataItem
import AsmBridge.Proofs.Pool.Lemmas.Definition

/-!
# Directives that end the run

What is wrong with a directive for constants becomes a warning, or a number that cannot be read a zero. Two faults are left
out of this and end the run: a number that is written as a character and stands for none or for several, and a negative
count of bytes below all lengths.
-/

namespace AsmBridge

/-! ## Faults that are no values -/

/-- Whether a conversion fails with a fault that becomes no warning. -/
def Escapes {α : Type} (x : Except Fault α) : Prop :=
  ∃ fault, x = .error fault ∧ fault.isValue = false

section

variable {α β : Type}

theorem not_escapes_ok (a : α) : ¬ Escapes (.ok a) := by
  rintro ⟨fault, h, -⟩
  cases h

theorem escapes_error_iff {fault : Fault} : Escapes (.error fault : Except Fault α) ↔ fault.isValue = false := by
  refine ⟨?_, fun h => ⟨fault, rfl, h⟩⟩
  rintro ⟨other, he, h⟩
  cases he
  exact h

theorem escapes_bind_iff (x : Except Fault α) (f : α → Except Fault β) :
    Escapes (x >>= f) ↔ Escapes x ∨ ∃ a, x = .ok a ∧ Escapes (f a) := by
  cases x with
  | error fault =>
      change Escapes (.error fault) ↔ _
      simp [escapes_error_iff]
  | ok a =>
      change Escapes (f a) ↔ _
      simp [not_escapes_ok]

theorem escapes_map_iff (x : Except Fault α) (f : α → β) : Escapes (x.map f) ↔ Escapes x := by
  cases x with
  | error fault => exact escapes_error_iff.trans escapes_error_iff.symm
  | ok a => exact iff_of_false (not_escapes_ok _) (not_escapes_ok _)

end

/-! ## Numbers -/

/-- Whether an operand stands between single quotes and is no character, or several. -/
def IsNoCharacter (operand : Text) : Prop :=
  Literal.isCharacter operand.trim = true ∧ (unquote operand.trim).length ≠ 1

theorem Literal.octal?_of_isCharacter {t : Text} (h : isCharacter t = true) : octal? t = none := by
  rw [isCharacter, Bool.and_eq_true, Bool.and_eq_true] at h
  obtain ⟨c, r, rfl⟩ : ∃ c r, t = c :: r := by
    cases t with
    | nil => simp at h
    | cons c r => exact ⟨c, r, rfl⟩
  obtain rfl : c = '\x27' := by simpa using h.1.2
  rfl

/-- A number that is no number is a value that is wrong. -/
theorem Literal.escapes_read_iff (operand : Text) : Escapes (read operand) ↔ IsNoCharacter operand := by
  rw [read, readTrimmed, IsNoCharacter]
  cases hc : isCharacter operand.trim with
  | true =>
      rw [octal?_of_isCharacter hc]
      simp only [↓reduceIte, true_and]
      unfold codePoint
      split
      · rename_i he
        simp [he, not_escapes_ok]
      · rename_i hne
        refine iff_of_true (escapes_error_iff.mpr rfl) fun hl => ?_
        obtain ⟨c, hu⟩ := List.length_eq_one_iff.mp hl
        exact hne c hu
  | false =>
      simp only [Bool.false_eq_true, ↓reduceIte, false_and, iff_false]
      split
      · exact not_escapes_ok _
      · split
        · exact not_escapes_ok _
        · exact fun h => Bool.noConfusion (escapes_error_iff.mp h)

/-! ## Images -/

namespace Image

/-- Whether the fault of an image becomes no warning. -/
def EndsRun (image : Image) : Prop :=
  ∃ fault, image.fault = some fault ∧ fault.isValue = false

theorem not_endsRun_of_eq_none {image : Image} (h : image.fault = none) : ¬ image.EndsRun := by
  rintro ⟨fault, he, -⟩
  rw [h] at he
  cases he

theorem endsRun_of_eq_some_iff {image : Image} {fault : Fault} (h : image.fault = some fault) :
    image.EndsRun ↔ fault.isValue = false := by
  simp [EndsRun, h]

theorem endsRun_ofBytes_iff (x : Except Fault (List UInt8)) : (ofBytes x).EndsRun ↔ Escapes x := by
  cases x with
  | error fault => exact (endsRun_of_eq_some_iff rfl).trans escapes_error_iff.symm
  | ok bytes => exact iff_of_false (not_endsRun_of_eq_none rfl) (not_escapes_ok bytes)

theorem endsRun_ofNumbers_iff (size : Nat) (operands : List Text) :
    (ofNumbers size operands).EndsRun ↔ ∃ operand ∈ operands, IsNoCharacter operand := by
  induction operands with
  | nil => exact iff_of_false (not_endsRun_of_eq_none rfl) (by simp)
  | cons operand operands ih =>
      have hoperand := Literal.escapes_read_iff operand
      have hcons : (∃ o ∈ operand :: operands, IsNoCharacter o) ↔
          IsNoCharacter operand ∨ ∃ o ∈ operands, IsNoCharacter o := by
        simp
      rw [hcons, ofNumbers, ← ih]
      cases hr : Literal.read operand with
      | ok n =>
          rw [hr] at hoperand
          exact (or_iff_right (hoperand.not.mp (not_escapes_ok n))).symm
      | error fault =>
          rw [hr, escapes_error_iff] at hoperand
          simp only
          cases hv : fault.isValue with
          | true =>
              rw [hv] at hoperand
              exact (or_iff_right (hoperand.not.mp (by simp))).symm
          | false => exact iff_of_true ((endsRun_of_eq_some_iff rfl).mpr hv) (.inl (hoperand.mp hv))

/-- What has no byte is a value. -/
theorem not_endsRun_ofStrings (terminator : List UInt8) (operands : List Text) : ¬ (ofStrings terminator operands).EndsRun := by
  induction operands with
  | nil => exact not_endsRun_of_eq_none rfl
  | cons operand operands ih =>
      rw [ofStrings]
      split
      · exact ih
      · rename_i fault he
        unfold encodeBytes at he
        split at he
        · cases he
          exact (endsRun_of_eq_some_iff rfl).not.mpr (by simp [Fault.isValue, Fault.kind])
        · cases he

/-- A run of bytes below the limits can be made, and one below all lengths cannot. -/
theorem escapes_replicateByte_iff {length : Int} (h : length < 2 ^ 31) (byte : UInt8) :
    Escapes (replicateByte length byte) ↔ length < -lengthLimit := by
  by_cases hl : length < -lengthLimit
  · exact iff_of_true (replicateByte_eq_error (fun hfits => Int.not_lt.mpr hfits.1 hl) byte) hl
  · have hm : length < memoryLimit := h.trans (by decide)
    rw [replicateByte_eq_ok (Int.not_lt.mp hl) hm]
    exact iff_of_false (not_escapes_ok _) hl

theorem not_escapes_padding (length : Nat) {alignment : Int} (h : alignment < 2 ^ 31) :
    ¬ Escapes (replicateByte (padding length alignment) 0) := by
  have hlow := padding_nonneg length alignment
  have hhigh : padding length alignment < max alignment 1 := Int.emod_lt_of_pos _ (by omega)
  rw [escapes_replicateByte_iff (by omega), lengthLimit]
  omega

/-- A power of two below the limit can be made, and a negative exponent is a value. -/
theorem not_escapes_powerOfTwo (length : Nat) {exponent : Int} (h : exponent < 31) :
    ¬ Escapes (powerOfTwo exponent >>= fun alignment => replicateByte (padding length alignment) 0) := by
  by_cases hn : exponent < 0
  · rw [powerOfTwo, if_pos hn]
    exact escapes_error_iff.not.mpr (by simp [Fault.isValue, Fault.kind])
  · have hpow : (2 : Int) ^ exponent.toNat < 2 ^ 31 := Int.pow_lt_pow_of_lt (by decide) (by omega)
    rw [powerOfTwo_eq_ok (Int.not_lt.mp hn) (h.trans (by decide))]
    exact not_escapes_padding length hpow

theorem endsRun_ofAlignment_iff {isPower : Bool} {operands : List Text} (length : Nat)
    (h : ∀ operand ∈ operands.head?, ∀ n, Literal.read operand = .ok n → n < if isPower then 31 else 2 ^ 31) :
    (ofAlignment isPower length operands).EndsRun ↔ ∃ operand ∈ operands.head?, IsNoCharacter operand := by
  cases operands with
  | nil => exact iff_of_false (not_endsRun_of_eq_none rfl) (by simp)
  | cons operand operands =>
      have hrun : ofAlignment isPower length (operand :: operands) = ofBytes (Literal.read operand >>= fun n =>
          (if isPower then powerOfTwo n else .ok n) >>= fun alignment => replicateByte (padding length alignment) 0) := by
        cases isPower <;> rfl
      rw [hrun, endsRun_ofBytes_iff, escapes_bind_iff, Literal.escapes_read_iff]
      have hoperand : (∃ o ∈ (operand :: operands).head?, IsNoCharacter o) ↔ IsNoCharacter operand := by simp
      rw [hoperand, or_iff_left_iff_imp]
      rintro ⟨n, hn, hescapes⟩
      have hbound := h operand rfl n hn
      cases isPower with
      | false => exact absurd hescapes (not_escapes_padding length hbound)
      | true => exact absurd hescapes (not_escapes_powerOfTwo length hbound)

theorem endsRun_ofSpace_iff {operands : List Text}
    (h : ∀ operand ∈ operands.head?, ∀ n, Literal.read operand = .ok n → n < 2 ^ 31) :
    (ofSpace operands).EndsRun ↔ (∃ fill, operands[1]? = some fill ∧ IsNoCharacter fill) ∨
      ∃ count ∈ operands.head?, (∀ fill, operands[1]? = some fill → ∃ n, Literal.read fill = .ok n) ∧
        (IsNoCharacter count ∨ ∃ n, Literal.read count = .ok n ∧ n < -lengthLimit) := by
  have hcount {count : Text} (hc : ∀ n, Literal.read count = .ok n → n < 2 ^ 31) (byte : UInt8) :
      Escapes (Literal.read count >>= fun n => replicateByte n byte) ↔
        IsNoCharacter count ∨ ∃ n, Literal.read count = .ok n ∧ n < -lengthLimit := by
    rw [escapes_bind_iff, Literal.escapes_read_iff]
    exact or_congr_right (exists_congr fun n => and_congr_right fun hn => escapes_replicateByte_iff (hc n hn) byte)
  match operands with
  | [] => exact iff_of_false (not_endsRun_of_eq_none rfl) (by simp)
  | [count] =>
      have hrun : ofSpace [count] = ofBytes (Literal.read count >>= fun n => replicateByte n 0) := rfl
      rw [hrun, endsRun_ofBytes_iff, hcount (h count rfl)]
      simp
  | count :: fill :: rest =>
      have hrun : ofSpace (count :: fill :: rest) = ofBytes ((Literal.read fill).map lowByte >>= fun byte =>
          Literal.read count >>= fun n => replicateByte n byte) := rfl
      rw [hrun, endsRun_ofBytes_iff, escapes_bind_iff, escapes_map_iff, Literal.escapes_read_iff]
      simp only [hcount (h count rfl)]
      cases hf : Literal.read fill with
      | ok n => simp [hf, Except.map]
      | error fault => simp [hf, Except.map]

end Image

/-! ## Directives -/

/-- Whether a directive ends the run: one of its numbers is written as a character and is none, or its count of bytes is
below all lengths. The count is read only after the byte to repeat. -/
inductive StopsRun (directive : Text) (operands : List Text) : Prop
  | number {size : Nat} {operand : Text} (known : (directive, size) ∈ numberDirectives) (mem : operand ∈ operands)
    (wrong : IsNoCharacter operand)
  | alignment {isPower : Bool} {operand : Text} (known : (directive, isPower) ∈ alignmentDirectives)
    (first : operand ∈ operands.head?) (wrong : IsNoCharacter operand)
  | fill {fill : Text} (known : directive ∈ spaceDirectives) (second : operands[1]? = some fill) (wrong : IsNoCharacter fill)
  | count {count : Text} (known : directive ∈ spaceDirectives) (first : count ∈ operands.head?)
    (readable : ∀ fill, operands[1]? = some fill → ∃ n, Literal.read fill = .ok n)
    (wrong : IsNoCharacter count ∨ ∃ n, Literal.read count = .ok n ∧ n < -lengthLimit)

/-- Whether the count of bytes or the alignment that a directive asks for is below two to the power 31. -/
def AsksForLittle (directive : Text) (operands : List Text) : Prop :=
  ∀ operand ∈ operands.head?, ∀ n, Literal.read operand = .ok n → (directive ∈ spaceDirectives → n < 2 ^ 31) ∧
    ∀ isPower, (directive, isPower) ∈ alignmentDirectives → n < if isPower then 31 else 2 ^ 31

section

variable {directive : Text} {operands : List Text}

theorem StopsRun.mem_dataDirectives (h : StopsRun directive operands) : directive ∈ dataDirectives := by
  simp only [dataDirectives, List.mem_append, List.mem_map]
  cases h with
  | number known => exact .inl (.inl (.inl ⟨_, known, rfl⟩))
  | alignment known => exact .inl (.inr ⟨_, known, rfl⟩)
  | fill known => exact .inr known
  | count known => exact .inr known

theorem endsRun_ofDirective_iff (h : AsksForLittle directive operands) (length : Nat) :
    (Image.ofDirective directive operands length).EndsRun ↔ StopsRun directive operands := by
  have hspace (known : directive ∈ spaceDirectives) :=
    Image.endsRun_ofSpace_iff fun operand ho n hn => (h operand ho n hn).1 known
  have halignment {isPower : Bool} (known : (directive, isPower) ∈ alignmentDirectives) :=
    Image.endsRun_ofAlignment_iff length fun operand ho n hn => (h operand ho n hn).2 isPower known
  constructor
  · intro hends
    unfold Image.ofDirective at hends
    split at hends
    · rename_i size hl
      obtain ⟨operand, hm, hwrong⟩ := (Image.endsRun_ofNumbers_iff _ _).mp hends
      exact .number (mem_of_lookup_eq_some hl) hm hwrong
    · exact absurd hends (Image.not_endsRun_ofStrings _ _)
    · rename_i isPower _ _ hl
      obtain ⟨operand, hm, hwrong⟩ := (halignment (mem_of_lookup_eq_some hl)).mp hends
      exact .alignment (mem_of_lookup_eq_some hl) hm hwrong
    · split at hends
      · rename_i hc
        have known : directive ∈ spaceDirectives := by simpa using hc
        rcases (hspace known).mp hends with ⟨fill, hsecond, hwrong⟩ | ⟨count, hfirst, hreadable, hwrong⟩
        · exact .fill known hsecond hwrong
        · exact .count known hfirst hreadable hwrong
      · exact absurd hends ((Image.endsRun_of_eq_some_iff rfl).not.mpr (by simp [Fault.isValue, Fault.kind]))
  · intro hstops
    cases hstops with
    | number known mem wrong =>
        rw [DataItem.ofDirective_values known]
        exact (Image.endsRun_ofNumbers_iff _ _).mpr ⟨_, mem, wrong⟩
    | alignment known first wrong =>
        rw [DataItem.ofDirective_alignment known]
        exact (halignment known).mpr ⟨_, first, wrong⟩
    | fill known second wrong =>
        rw [DataItem.ofDirective_space known]
        exact (hspace known).mpr (.inl ⟨_, second, wrong⟩)
    | count known first readable wrong =>
        rw [DataItem.ofDirective_space known]
        exact (hspace known).mpr (.inr ⟨_, first, readable, wrong⟩)

end

/-! ## Lines -/

namespace Pool

variable {p q pool : Pool} {number : Nat} {line : Text} {lines : List Text} {directive : Text} {operands : List Text}

/-- The directive of a line, in small letters, and its operands. A label leaves no room for one. -/
def directiveOf? (line : Text) : Option (Text × List Text) :=
  match label? line with
  | some _ => none
  | none => (directive? line).map fun (name, args) => (name.toLower, splitOperands args)

/-- Whether a line ends the run where it stands in a section with constants. -/
def Stops (line : Text) : Prop :=
  ∃ directive operands, directiveOf? line = some (directive, operands) ∧ StopsRun directive operands

/-- Whether the directive of a line asks for little space. -/
def IsModest (line : Text) : Prop :=
  ∀ directive operands, directiveOf? line = some (directive, operands) → AsksForLittle directive operands

theorem readLine_of_directiveOf? (h : directiveOf? line = some (directive, operands)) (p : Pool) (number : Nat) :
    p.readLine number line = settle number (p.feed directive operands) := by
  unfold directiveOf? at h
  split at h
  · cases h
  · rename_i hlabel
    obtain ⟨⟨name, args⟩, hd, he⟩ := Option.map_eq_some_iff.mp h
    cases he
    rw [readLine, hlabel, hd]
    rfl

theorem exists_readLine_of_directiveOf?_eq_none (h : directiveOf? line = none) (p : Pool) (number : Nat) :
    ∃ q, p.readLine number line = (q, none) ∧ q.warnings = p.warnings := by
  unfold directiveOf? at h
  rw [readLine]
  split
  · refine ⟨_, rfl, ?_⟩
    unfold define
    split <;> rfl
  · rename_i hlabel
    rw [hlabel] at h
    rw [Option.map_eq_none_iff.mp h]
    exact ⟨p, rfl, rfl⟩

theorem fault_settle_eq_none_iff {result : Pool × Option Fault} :
    (settle number result).2 = none ↔ ∀ fault, result.2 = some fault → fault.isValue = true := by
  obtain ⟨p, _ | fault⟩ := result
  · simp [settle]
  · rw [settle]
    cases hv : fault.isValue <;> simp [hv]

theorem fault_feed_iff (h : AsksForLittle directive operands) (p : Pool) :
    (∀ fault, (p.feed directive operands).2 = some fault → fault.isValue = true) ↔
      (p.inConstants = true → ¬ StopsRun directive operands) := by
  constructor
  · intro hvalue hc hstops
    obtain ⟨fault, hf, hv⟩ := (endsRun_ofDirective_iff h p.data.length).mpr hstops
    rw [feed_data hstops.mem_dataDirectives, if_pos hc] at hvalue
    rw [hvalue fault hf] at hv
    cases hv
  · intro hstops fault hf
    unfold feed at hf
    split at hf
    · cases hf
    · split at hf
      · cases hf
      · rename_i hc
        by_contra hv
        rw [Bool.or_eq_true, not_or, Bool.not_eq_true', Bool.not_eq_false] at hc
        exact hstops hc.1 ((endsRun_ofDirective_iff h p.data.length).mp ⟨fault, hf, Bool.eq_false_iff.mpr hv⟩)

/-- A line ends the run where it stands among constants and one of its numbers is no character. -/
theorem fault_readLine_eq_none_iff (h : IsModest line) (p : Pool) (number : Nat) :
    (p.readLine number line).2 = none ↔ (p.inConstants = true → ¬ Stops line) := by
  cases hd : directiveOf? line with
  | none =>
      obtain ⟨q, hq, -⟩ := exists_readLine_of_directiveOf?_eq_none hd p number
      refine iff_of_true (by rw [hq]) fun _ => ?_
      rintro ⟨directive, operands, he, -⟩
      rw [hd] at he
      cases he
  | some entry =>
      obtain ⟨directive, operands⟩ := entry
      have hstops : Stops line ↔ StopsRun directive operands := by
        simp only [Stops, hd, Option.some.injEq, Prod.mk.injEq]
        exact ⟨fun ⟨_, _, ⟨hn, ho⟩, hs⟩ => hn ▸ ho ▸ hs, fun hs => ⟨_, _, ⟨rfl, rfl⟩, hs⟩⟩
      rw [readLine_of_directiveOf? hd, fault_settle_eq_none_iff, fault_feed_iff (h _ _ hd), hstops]

/-- Lines are read to their end where none of them ends the run. -/
theorem fault_readLines_eq_none_iff (h : ∀ line ∈ lines, IsModest line) (p : Pool) (number : Nat) :
    (p.readLines number lines).2 = none ↔ ∀ before line after, lines = before ++ line :: after →
      lastSwitch constantsSwitch? p.inConstants before = true → ¬ Stops line := by
  induction lines generalizing p number with
  | nil => exact iff_of_true rfl fun before line after he => by simp at he
  | cons line lines ih =>
      obtain ⟨hline, hlines⟩ := List.forall_mem_cons.mp h
      have hcons : (p.readLines number (line :: lines)).2 = none ↔
          (p.readLine number line).2 = none ∧ ((p.readLine number line).1.readLines (number + 1) lines).2 = none := by
        rw [readLines]
        generalize p.readLine number line = result
        obtain ⟨q, _ | fault⟩ := result <;> simp
      rw [hcons, fault_readLine_eq_none_iff hline, ih hlines, inConstants_readLine]
      -- A line stands behind none, or behind the first one, whose switch the pool has noted.
      constructor
      · rintro ⟨hfirst, hrest⟩ before other after he hc
        cases before with
        | nil =>
            obtain ⟨rfl, -⟩ := List.cons.inj he
            exact hfirst hc
        | cons first before =>
            obtain ⟨rfl, htail⟩ := List.cons.inj he
            exact hrest before other after htail hc
      · intro hall
        exact ⟨hall [] line lines rfl, fun before other after he => hall (line :: before) other after (by rw [he]; rfl)⟩

theorem exists_ofListing_eq_ok_iff (h : ∀ line ∈ lines, IsModest line) :
    (∃ pool, ofListing lines = .ok pool) ↔ ∀ before line after, lines = before ++ line :: after →
      inConstantsAfter before = true → ¬ Stops line := by
  refine Iff.trans ?_ (fault_readLines_eq_none_iff h {} 1)
  rw [ofListing]
  generalize ({} : Pool).readLines 1 lines = result
  obtain ⟨q, _ | fault⟩ := result <;> simp

/-! ## What a pool has of a directive -/

theorem readLines_append (p : Pool) (number : Nat) (xs ys : List Text) :
    p.readLines number (xs ++ ys) =
      match p.readLines number xs with
      | (q, none) => q.readLines (number + xs.length) ys
      | (q, some fault) => (q, some fault) := by
  induction xs generalizing p number with
  | nil => rfl
  | cons line xs ih =>
      rw [List.cons_append, readLines, readLines]
      generalize p.readLine number line = result
      obtain ⟨q, _ | fault⟩ := result
      · rw [List.length_cons, Nat.add_comm xs.length, ← Nat.add_assoc]
        exact ih q (number + 1)
      · rfl

theorem warnings_prefix_settle (number : Nat) (result : Pool × Option Fault) :
    result.1.warnings <+: (settle number result).1.warnings := by
  obtain ⟨q, _ | fault⟩ := result
  · exact List.prefix_refl _
  · rw [settle]
    split
    · exact List.prefix_append _ _
    · exact List.prefix_refl _

theorem warnings_prefix_feed (p : Pool) (directive : Text) (operands : List Text) :
    p.warnings <+: (p.feed directive operands).1.warnings := by
  unfold feed
  split
  · exact List.prefix_refl _
  · split
    · exact List.prefix_refl _
    · exact List.prefix_append _ _

theorem warnings_prefix_readLine (p : Pool) (number : Nat) (line : Text) :
    p.warnings <+: (p.readLine number line).1.warnings := by
  cases hd : directiveOf? line with
  | none =>
      obtain ⟨q, hq, hw⟩ := exists_readLine_of_directiveOf?_eq_none hd p number
      rw [hq, hw]
  | some entry =>
      rw [readLine_of_directiveOf? hd]
      exact (p.warnings_prefix_feed _ _).trans (warnings_prefix_settle number _)

theorem warnings_prefix_readLines (h : p.readLines number lines = (q, none)) : p.warnings <+: q.warnings := by
  induction lines generalizing p number with
  | nil =>
      cases h
      exact List.prefix_refl _
  | cons line lines ih =>
      obtain ⟨next, hn, h⟩ := readLines_cons_eq_none h
      have hline := warnings_prefix_readLine p number line
      rw [hn] at hline
      exact hline.trans (ih h)

/-- The bytes that an operand of a directive for numbers stands for: zeros where it is no number. -/
def storedNumber (size : Nat) (operand : Text) : List UInt8 :=
  littleEndian size (match Literal.read operand with
    | .ok n => n
    | .error _ => 0)

/-- What a pool has of a directive that stands among constants, on the line with a number and behind the data of an
earlier pool: the bytes of its image with all warnings, and a warning about its fault. A number that cannot be read is
stored as zero with a warning. -/
structure Records (pool earlier : Pool) (number : Nat) (directive : Text) (operands : List Text) : Prop where
  bytes : earlier.data ++ (Image.ofDirective directive operands earlier.data.length).bytes <+: pool.data
  warnings : (Image.ofDirective directive operands earlier.data.length).warnings ⊆ pool.warnings
  fault : ∀ fault, (Image.ofDirective directive operands earlier.data.length).fault = some fault →
    "Line ".toList ++ Decimal.ofNat number ++ ": ".toList ++ fault.message ∈ pool.warnings
  numbers : ∀ size, (directive, size) ∈ numberDirectives → earlier.data ++ operands.flatMap (storedNumber size) <+: pool.data ∧
    ∀ operand ∈ operands, ∀ fault, Literal.read operand = .error fault →
      fault.message ++ ", stored as zero".toList ∈ pool.warnings

theorem ofNumbers_of_not_endsRun {size : Nat} (h : ¬ (Image.ofNumbers size operands).EndsRun) :
    (Image.ofNumbers size operands).bytes = operands.flatMap (storedNumber size) ∧
      ∀ operand ∈ operands, ∀ fault, Literal.read operand = .error fault →
        fault.message ++ ", stored as zero".toList ∈ (Image.ofNumbers size operands).warnings := by
  induction operands with
  | nil => exact ⟨rfl, nofun⟩
  | cons operand operands ih =>
      have hcons (operand : Text) : (operand :: operands).flatMap (storedNumber size) =
          storedNumber size operand ++ operands.flatMap (storedNumber size) := List.flatMap_cons
      unfold Image.ofNumbers at h ⊢
      rw [hcons, storedNumber]
      cases hr : Literal.read operand with
      | ok n =>
          rw [hr] at h
          obtain ⟨hbytes, hwarnings⟩ := ih h
          refine ⟨congrArg (littleEndian size n ++ ·) hbytes, List.forall_mem_cons.mpr ⟨fun fault he => ?_, hwarnings⟩⟩
          rw [hr] at he
          cases he
      | error fault =>
          rw [hr] at h
          simp only at h ⊢
          cases hv : fault.isValue with
          | true =>
              simp only [hv, ↓reduceIte] at h ⊢
              obtain ⟨hbytes, hwarnings⟩ := ih h
              refine ⟨congrArg (littleEndian size 0 ++ ·) hbytes, List.forall_mem_cons.mpr
                ⟨fun other he => ?_, fun other hm fault he => List.mem_cons_of_mem _ (hwarnings other hm fault he)⟩⟩
              rw [hr] at he
              cases he
              exact List.mem_cons_self
          | false =>
              simp only [hv, Bool.false_eq_true, ↓reduceIte] at h
              exact absurd ((Image.endsRun_of_eq_some_iff rfl).mpr hv) h

theorem settle_eq_none {fault? : Option Fault} {next : Pool} (h : settle number (q, fault?) = (next, none)) :
    next.data = q.data ∧ q.warnings ⊆ next.warnings ∧ ∀ fault, fault? = some fault → fault.isValue = true ∧
      "Line ".toList ++ Decimal.ofNat number ++ ": ".toList ++ fault.message ∈ next.warnings := by
  cases fault? with
  | none =>
      cases h
      exact ⟨rfl, List.Subset.refl _, nofun⟩
  | some fault =>
      rw [settle] at h
      split at h
      · rename_i hv
        cases h
        refine ⟨rfl, List.subset_append_left _ _, fun other he => ?_⟩
        cases he
        exact ⟨hv, List.mem_append_right _ List.mem_cons_self⟩
      · cases h

/-- A directive among constants that is read leaves its image, and a warning where it has a fault. -/
theorem records_of_readLine {earlier next : Pool} (hd : directiveOf? line = some (directive, operands))
    (hs : entersConstants? directive operands = none) (hi : ignoredDirectives.contains directive = false)
    (hc : earlier.inConstants = true) (h : earlier.readLine number line = (next, none)) :
    next.Records earlier number directive operands := by
  have hfeed : earlier.feed directive operands = (earlier.add (Image.ofDirective directive operands earlier.data.length),
      (Image.ofDirective directive operands earlier.data.length).fault) := by
    rw [feed, hs, hi, hc]
    rfl
  rw [readLine_of_directiveOf? hd, hfeed] at h
  obtain ⟨hdata, hwarnings, hfault⟩ := settle_eq_none h
  have hbytes : earlier.data ++ (Image.ofDirective directive operands earlier.data.length).bytes <+: next.data :=
    hdata ▸ List.prefix_refl _
  have himage : (Image.ofDirective directive operands earlier.data.length).warnings ⊆ next.warnings :=
    List.Subset.trans (List.subset_append_right earlier.warnings _) hwarnings
  refine ⟨hbytes, himage, fun fault hf => (hfault fault hf).2, fun size known => ?_⟩
  rw [DataItem.ofDirective_values known] at hbytes himage hfault
  have hends : ¬ (Image.ofNumbers size operands).EndsRun := by
    rintro ⟨fault, hf, hv⟩
    rw [(hfault fault hf).1] at hv
    cases hv
  obtain ⟨hstored, hzeros⟩ := ofNumbers_of_not_endsRun hends
  exact ⟨hstored ▸ hbytes, fun operand ho fault hf => himage (hzeros operand ho fault hf)⟩

theorem exists_records (h : ofListing lines = .ok pool) {before after : List Text} (hl : lines = before ++ line :: after)
    (hc : inConstantsAfter before = true) (hd : directiveOf? line = some (directive, operands))
    (hs : entersConstants? directive operands = none) (hi : ignoredDirectives.contains directive = false) :
    ∃ earlier, ofListing before = .ok earlier ∧ pool.Records earlier (before.length + 1) directive operands := by
  have hread := readLines_of_ofListing h
  rw [hl, readLines_append] at hread
  split at hread
  · rename_i earlier hearlier
    obtain ⟨next, hline, hafter⟩ := readLines_cons_eq_none hread
    rw [Nat.add_comm] at hline
    have hin : earlier.inConstants = true := (inConstants_readLines hearlier).trans hc
    have hrecords := records_of_readLine hd hs hi hin hline
    have hwarnings := (warnings_prefix_readLines hafter).subset
    refine ⟨earlier, by rw [ofListing, hearlier], ?_⟩
    exact {
      bytes := hrecords.bytes.trans (data_prefix_readLines hafter)
      warnings := List.Subset.trans hrecords.warnings hwarnings
      fault := fun fault hf => hwarnings (hrecords.fault fault hf)
      numbers := fun size known => ⟨(hrecords.numbers size known).1.trans (data_prefix_readLines hafter),
        fun operand ho fault hf => hwarnings ((hrecords.numbers size known).2 operand ho fault hf)⟩ }
  · cases hread

end Pool

end AsmBridge
