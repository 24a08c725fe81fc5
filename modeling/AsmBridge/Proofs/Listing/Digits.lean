import AsmBridge.Listing.Shape
import AsmBridge.Proofs.Entries
import AsmBridge.Proofs.Line.Lemmas.Comment
import AsmBridge.Proofs.Listing.Form
import AsmBridge.Proofs.Number.Decimal
import AsmBridge.Proofs.Text.DigitRun
import AsmBridge.Text.Lines

/-!
# Digits in a listing

No line of a listing has a longer run of digits than the listing, and no normal form of a line a longer one than the
line. So the numbers of an entry sequence can be read where the listing has no number that is too long.
-/

namespace AsmBridge

open Text (longestRun longestRunAfter)

/-! ## Lines -/

namespace Text

/-- A carriage return and a line feed end a run alike. -/
theorem longestRunAfter_unifyNewlines (t : Text) :
    ((t.foldr pushUnified (false, [])).1 = true → ∃ r, (t.foldr pushUnified (false, [])).2 = '\n' :: r) ∧
      ∀ count, longestRunAfter count t.unifyNewlines = longestRunAfter count t := by
  unfold unifyNewlines
  -- The first part tells that a return before a feed leaves no run between the two.
  induction t with
  | nil => exact ⟨nofun, fun count => rfl⟩
  | cons c t ih =>
      obtain ⟨hfeed, hrun⟩ := ih
      rw [List.foldr_cons]
      generalize t.foldr pushUnified (false, []) = unified at hfeed hrun
      obtain ⟨feedFollows, u⟩ := unified
      have hreturn : isDecimalDigit '\r' = false := by decide
      have hbreak : isDecimalDigit '\n' = false := by decide
      rw [pushUnified]
      split
      · rename_i hc
        obtain rfl := eq_of_beq hc
        refine ⟨nofun, fun count => ?_⟩
        rw [longestRunAfter_of_not_digit hreturn, longestRun, ← hrun]
        cases feedFollows with
        | true =>
            obtain ⟨r, rfl⟩ := hfeed rfl
            simp only [↓reduceIte, longestRunAfter_of_not_digit hbreak, Nat.zero_max]
        | false => exact longestRunAfter_of_not_digit hbreak u
      · exact ⟨fun hc => ⟨u, by rw [eq_of_beq hc]⟩, fun count => longestRunAfter_cons_congr hrun count c⟩

/-- Whether pieces are parts of a text, the first of which starts it. -/
structure ArePieces (pieces : List Text) (t : Text) : Prop where
  first : ∀ piece ∈ pieces.head?, piece <+: t
  all : ∀ piece ∈ pieces, piece <:+: t

theorem ArePieces.start {pieces : List Text} {t : Text} (h : ArePieces pieces t) (c : Char) :
    ArePieces ([] :: pieces) (c :: t) where
  first piece hp := by
    cases hp
    exact List.nil_prefix
  all := List.forall_mem_cons.mpr ⟨List.nil_infix, fun piece hp => List.infix_cons (h.all piece hp)⟩

theorem ArePieces.extend {piece : Text} {pieces : List Text} {t : Text} (h : ArePieces (piece :: pieces) t) (c : Char) :
    ArePieces ((c :: piece) :: pieces) (c :: t) := by
  have hcons : c :: piece <+: c :: t := List.prefix_cons_iff.mpr (.inr ⟨piece, rfl, h.first piece rfl⟩)
  refine ⟨fun other hp => ?_, List.forall_mem_cons.mpr ⟨hcons.isInfix, fun other hp => ?_⟩⟩
  · cases hp
    exact hcons
  · exact List.infix_cons (h.all other (List.mem_cons_of_mem _ hp))

theorem arePieces_foldr_pushLine (t : Text) : ArePieces (t.foldr pushLine []) t := by
  induction t with
  | nil => exact ⟨nofun, nofun⟩
  | cons c t ih =>
      rw [List.foldr_cons]
      generalize t.foldr pushLine [] = lines at ih
      unfold pushLine
      split
      · exact ih.start c
      · split
        · exact ArePieces.extend ⟨fun piece hp => by cases hp; exact List.nil_prefix,
            List.forall_mem_singleton.mpr List.nil_infix⟩ c
        · exact ih.extend c

theorem longestRun_le_of_mem_splitLines {t line : Text} (h : line ∈ t.splitLines) : line.longestRun ≤ t.longestRun := by
  refine (longestRun_le_of_isInfix ((arePieces_foldr_pushLine _).all line h)).trans ?_
  exact Nat.le_of_eq ((longestRunAfter_unifyNewlines t).2 0)

/-! ## Fields -/

theorem arePieces_splitOnP (p : Char → Bool) (t : Text) : ArePieces (t.splitOnP p) t := by
  induction t with
  | nil => exact ⟨fun piece hp => by cases hp; exact List.nil_prefix, List.forall_mem_singleton.mpr List.nil_infix⟩
  | cons c t ih =>
      rw [List.splitOnP_cons_eq_if_modifyHead]
      generalize t.splitOnP p = pieces at ih
      split
      · exact ih.start c
      · cases pieces with
        | nil => exact ⟨nofun, nofun⟩
        | cons piece pieces => exact ih.extend c

theorem longestRun_unwords_le {limit : Nat} {pieces : List Text} (h : ∀ piece ∈ pieces, piece.longestRun ≤ limit) :
    (unwords pieces).longestRun ≤ limit := by
  unfold unwords
  induction pieces with
  | nil => exact Nat.zero_le _
  | cons piece pieces ih =>
      obtain ⟨hpiece, hpieces⟩ := List.forall_mem_cons.mp h
      cases pieces with
      | nil => simpa using hpiece
      | cons next pieces =>
          have hblank : isDecimalDigit ' ' = false := by decide
          rw [List.intercalate_cons_cons, List.append_assoc]
          change longestRun (piece ++ ' ' :: _) ≤ limit
          rw [longestRun, longestRunAfter_append_cons hblank]
          exact Nat.max_le.mpr ⟨hpiece, ih hpieces⟩

theorem longestRun_unwords_fields_le (t : Text) : (unwords t.fields).longestRun ≤ t.longestRun :=
  longestRun_unwords_le fun piece hp =>
    longestRun_le_of_isInfix ((arePieces_splitOnP isBlank t).all piece (List.mem_of_mem_filter hp))

/-! ## Commas -/

theorem longestRunAfter_spaceCommas (count : Nat) (t : Text) :
    longestRunAfter count (spaceCommas t) = longestRunAfter count t := by
  induction t generalizing count with
  | nil => rfl
  | cons c t ih =>
      have hcons : spaceCommas (c :: t) = (if c == ',' then ", ".toList else [c]) ++ spaceCommas t := List.flatMap_cons
      rw [hcons]
      split
      · rename_i hc
        obtain rfl := eq_of_beq hc
        have hcomma : isDecimalDigit ',' = false := by decide
        have hblank : isDecimalDigit ' ' = false := by decide
        change longestRunAfter count (',' :: ' ' :: spaceCommas t) = _
        rw [longestRunAfter_of_not_digit hcomma, longestRunAfter_of_not_digit hcomma, longestRun,
          longestRunAfter_of_not_digit hblank, Nat.zero_max, longestRun, longestRun, ih]
      · exact longestRunAfter_cons_congr ih count c

theorem longestRunAfter_closeCommas (count : Nat) (t : Text) :
    longestRunAfter count (closeCommas t) = longestRunAfter count t := by
  fun_induction closeCommas t generalizing count with
  | case1 t ih =>
      have hcomma : isDecimalDigit ',' = false := by decide
      have hblank : isDecimalDigit ' ' = false := by decide
      rw [longestRunAfter_of_not_digit hcomma, longestRunAfter_of_not_digit hblank, longestRun, longestRun,
        longestRunAfter_of_not_digit hcomma, Nat.zero_max, longestRun, ih]
  | case2 c t hne ih => exact longestRunAfter_cons_congr ih count c
  | case3 => rfl

end Text

/-! ## Lower case -/

theorem isDecimalDigit_ofNat {n : Nat} (hn : 0x80 ≤ n) (h : ∀ start ∈ scriptZeros, n < start ∨ start + 10 ≤ n) :
    isDecimalDigit (Char.ofNat n) = false := by
  by_cases hv : n.isValidChar
  · have hnone : (scriptZeros.find? fun start => start ≤ n && n < start + 10) = none := by
      rw [List.find?_eq_none]
      intro start hs
      have hout := h start hs
      simp only [Bool.and_eq_true, decide_eq_true_eq]
      omega
    have htoNat : (Char.ofNat n).toNat = n := by
      rw [Char.ofNat, dif_pos hv]
      rfl
    rw [isDecimalDigit, digitValue?, htoNat, if_neg (by omega), hnone]
    rfl
  · rw [Char.ofNat, dif_neg hv]
    rfl

theorem CaseRun.isDecimalDigit_lower {run : CaseRun} (hr : run ∈ CaseRun.lower) {n : Nat} (hn : run.covers n) :
    isDecimalDigit (Char.ofNat (n + run.shift).toNat) = false := by
  -- A run is one letter, or it stays out of the digits of all scripts.
  have hall : ∀ run ∈ CaseRun.lower,
      (run.first = run.last ∧ isDecimalDigit (Char.ofNat (run.first + run.shift).toNat) = false) ∨
        0x80 ≤ run.first + run.shift ∧ ∀ start ∈ scriptZeros,
          run.last + run.shift < start ∨ (start : Int) + 10 ≤ run.first + run.shift := by
    decide +kernel
  simp only [covers, Bool.and_eq_true, decide_eq_true_eq] at hn
  rcases hall run hr with ⟨hone, hdigit⟩ | ⟨hlow, hout⟩
  · obtain rfl : n = run.first := by omega
    exact hdigit
  · refine isDecimalDigit_ofNat (by omega) fun start hs => ?_
    have hrun := hout start hs
    omega

/-- A digit becomes one character, and no other character becomes a digit. -/
theorem digits_lowerOf (c : Char) : (isDecimalDigit c = true → ∃ d, lowerOf c = [d]) ∧
    (isDecimalDigit c = false → lowerOf c ≠ [] ∧ ∀ d ∈ lowerOf c, isDecimalDigit d = false) := by
  unfold lowerOf
  split
  · rename_i hascii
    refine ⟨fun _ => ⟨_, rfl⟩, fun hc => ⟨List.cons_ne_nil _ _, List.forall_mem_singleton.mpr ?_⟩⟩
    have hall : ∀ c ∈ CharSet.chars [(0, 0x7F)], isDecimalDigit c = false → isDecimalDigit c.toLower = false := by
      decide +kernel
    have hlow : c.toNat ≤ 0x7F := Nat.le_of_lt_succ hascii
    exact hall c (CharSet.mem_chars_of_has (by simp [CharSet.has, hlow])) hc
  · split
    · rename_i codes hcodes
      have hall : ∀ entry ∈ lowerExpansions, isDecimalDigit (Char.ofNat entry.1) = false ∧ entry.2 ≠ [] ∧
          ∀ code ∈ entry.2, isDecimalDigit (Char.ofNat code) = false := by
        decide +kernel
      obtain ⟨hkey, hne, hcode⟩ := hall _ (mem_of_lookup_eq_some hcodes)
      rw [Char.ofNat_toNat] at hkey
      refine ⟨fun hc => ?_, fun _ => ⟨by simpa using hne, List.forall_mem_map.mpr hcode⟩⟩
      rw [hkey] at hc
      cases hc
    · refine ⟨fun _ => ⟨_, rfl⟩, fun hc => ⟨List.cons_ne_nil _ _, List.forall_mem_singleton.mpr ?_⟩⟩
      rw [CaseRun.map]
      split
      · rename_i run hrun
        have hcovers : run.covers c.toNat := by simpa using List.find?_some hrun
        exact CaseRun.isDecimalDigit_lower (List.mem_of_find?_eq_some hrun) hcovers
      · rwa [Char.ofNat_toNat]

namespace Text

theorem longestRunAfter_append_of_not_digit {count : Nat} {x : Text} (hn : x ≠ []) (hx : ∀ c ∈ x, isDecimalDigit c = false)
    (y : Text) : longestRunAfter count (x ++ y) = max count y.longestRun := by
  obtain ⟨c, x, rfl⟩ := List.exists_cons_of_ne_nil hn
  obtain ⟨hc, hx⟩ := List.forall_mem_cons.mp hx
  rw [List.cons_append, longestRunAfter_of_not_digit hc, longestRun_append_of_not_digit hx]

/-- A final sigma is no digit, and so is the other one. -/
theorem digits_lowered (before : Text) (c : Char) (t : Text) :
    let lowered := if c == 'Σ' then [if startsCased before && !startsCased t then 'ς' else 'σ'] else lowerOf c
    (isDecimalDigit c = true → ∃ d, lowered = [d]) ∧
      (isDecimalDigit c = false → lowered ≠ [] ∧ ∀ d ∈ lowered, isDecimalDigit d = false) := by
  intro lowered
  unfold lowered
  split
  · have hsigma : isDecimalDigit 'ς' = false ∧ isDecimalDigit 'σ' = false := by decide
    refine ⟨fun _ => ⟨_, rfl⟩, fun _ => ⟨List.cons_ne_nil _ _, List.forall_mem_singleton.mpr ?_⟩⟩
    split
    · exact hsigma.1
    · exact hsigma.2
  · exact digits_lowerOf c

theorem longestRunAfter_lowerAfter_le (before : Text) (count : Nat) (t : Text) :
    longestRunAfter count (lowerAfter before t) ≤ longestRunAfter count t := by
  induction t generalizing before count with
  | nil => exact Nat.le_refl _
  | cons c t ih =>
      obtain ⟨hdigit, hother⟩ := digits_lowered before c t
      cases hc : isDecimalDigit c with
      | true =>
          obtain ⟨d, hd⟩ := hdigit hc
          rw [lowerAfter, hd, List.singleton_append, longestRunAfter_of_digit hc]
          cases hdd : isDecimalDigit d with
          | true =>
              rw [longestRunAfter_of_digit hdd]
              exact ih _ _
          | false =>
              -- Where a digit becomes none, the run ends early and is shorter than that of the text.
              have hadd := longestRunAfter_add (count + 1) 0 t
              have hcount := le_longestRunAfter (count + 1) t
              have hrun := ih (c :: before) 0
              rw [longestRunAfter_of_not_digit hdd, longestRun]
              rw [Nat.add_zero] at hadd
              omega
      | false =>
          obtain ⟨hne, hall⟩ := hother hc
          rw [lowerAfter, longestRunAfter_append_of_not_digit hne hall, longestRunAfter_of_not_digit hc]
          have hrun := ih (c :: before) 0
          simp only [longestRun]
          omega

/-! ## Normal forms -/

theorem longestRun_normalize_le (line : Text) : (normalize line).longestRun ≤ line.longestRun := by
  refine (longestRunAfter_lowerAfter_le [] 0 _).trans ?_
  rw [longestRunAfter_closeCommas]
  refine (longestRun_unwords_fields_le _).trans ?_
  rw [longestRun, longestRunAfter_spaceCommas]
  exact longestRun_le_of_isInfix (stripComment_prefix_self line).isInfix

end Text

/-! ## Numbers of an entry sequence -/

theorem isDecimalDigit_of_isNumber {t : Text} (h : isNumber t = true) : ∀ c ∈ t, isDecimalDigit c = true :=
  List.all_eq_true.mp (Bool.and_eq_true_iff.mp h).2

theorem EntryForm.longestRun_number_le {line : Text} {form : EntryForm} (h : ofLine? line = some form) :
    form.number.longestRun ≤ line.longestRun :=
  (Text.longestRun_le_of_isInfix (ofText?_eq_some_iff.mp h).number_suffix.isInfix).trans (Text.longestRun_normalize_le line)

namespace Entry

open Decimal (digitLimit)

theorem fault_of_read {digits t : Text} (hs : digits <:+ t) (hn : isNumber digits = true) {fault : Fault}
    (h : Decimal.read digits = .error fault) : fault.isOverlong = true ∧ digitLimit < t.longestRun := by
  obtain ⟨hlong, hlength⟩ := Decimal.fault_of_read h
  exact ⟨hlong, hlength.trans_le (Text.length_le_longestRun (isDecimalDigit_of_isNumber hn) hs.isInfix)⟩

/-- A number is read before it is taken for an integer. -/
theorem read_eq_error {β : Type} {digits : Text} {f : Int → β} {fault : Fault}
    (h : Except.map f (do return ((← Decimal.read digits : Nat) : Int)) = .error fault) : Decimal.read digits = .error fault := by
  rcases cases_of_bind_eq_error (eq_error_of_map h) with h | ⟨n, -, h⟩
  · exact h
  · cases h

/-- An instruction is refused only where its number is too long. -/
theorem fault_of_step {e : Entry} {t : Text} {form : EntryForm} (ht : form.Spells t) {fault : Fault}
    (h : e.step form = .error fault) : fault.isOverlong = true ∧ digitLimit < form.number.longestRun := by
  cases ht with
  | pushFramePointer => cases h
  | setFramePointer => cases h
  | pushRegister => cases h
  | round hn =>
      rename_i mask
      replace h : Decimal.readSigned mask = .error fault := eq_error_of_map h
      unfold Decimal.readSigned at h
      unfold isSignedNumber at hn
      split at h
      · rename_i digits
        exact fault_of_read (List.suffix_cons '-' digits) hn (read_eq_error h)
      · rename_i hsign
        split at hn
        · exact absurd rfl (hsign _)
        · exact fault_of_read List.suffix_rfl hn (read_eq_error h)
  | reserve hn => exact fault_of_read List.suffix_rfl hn (read_eq_error h)

theorem fault_of_ofForms {lines : List Text} {fault : Fault} (h : ofForms (lines.filterMap EntryForm.ofLine?) = .error fault) :
    fault.isOverlong = true ∧
      ∃ line ∈ lines, ∃ form, EntryForm.ofLine? line = some form ∧ digitLimit < form.number.longestRun := by
  unfold ofForms at h
  generalize ({} : Entry) = entry at h
  induction lines generalizing entry with
  | nil => cases h
  | cons line lines ih =>
      have hrest {entry : Entry} (h : (lines.filterMap EntryForm.ofLine?).foldlM step entry = .error fault) :
          fault.isOverlong = true ∧
            ∃ l ∈ line :: lines, ∃ form, EntryForm.ofLine? l = some form ∧ digitLimit < form.number.longestRun := by
        obtain ⟨hlong, l, hl, hrun⟩ := ih entry h
        exact ⟨hlong, l, List.mem_cons_of_mem _ hl, hrun⟩
      rw [List.filterMap_cons] at h
      split at h
      · exact hrest h
      · rename_i form hform
        rw [List.foldlM_cons] at h
        rcases cases_of_bind_eq_error h with h | ⟨next, -, h⟩
        · obtain ⟨hlong, hrun⟩ := fault_of_step (EntryForm.ofText?_eq_some_iff.mp hform) h
          exact ⟨hlong, line, List.mem_cons_self, form, hform, hrun⟩
        · exact hrest h

end Entry

/-- A function without a shape is one that does not return once, or the number of an instruction is too long. -/
theorem Shape.fault_of_ofFunction {f : Function} {fault : Fault} (h : ofFunction f = .error fault) :
    fault.kind = .listing ∨ fault.isOverlong = true ∧
      ∃ line ∈ f.lines, ∃ form, EntryForm.ofLine? line = some form ∧ Decimal.digitLimit < form.number.longestRun := by
  unfold ofFunction at h
  rcases cases_of_bind_eq_error h with h | ⟨entry, -, h⟩
  · obtain ⟨hlong, line, hl, hrun⟩ := Entry.fault_of_ofForms h
    exact .inr ⟨hlong, line, List.mem_of_mem_filter ((List.takeWhile_prefix _).subset hl), hrun⟩
  · simp only at h
    split at h
    · cases h
      exact .inl rfl
    · cases h
    · cases h
      exact .inl rfl

end AsmBridge
