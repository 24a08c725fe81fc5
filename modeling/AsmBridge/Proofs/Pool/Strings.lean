import AsmBridge.Proofs.Entries
import AsmBridge.Proofs.Pool.Lemmas.Directive

/-!
# Strings among the constants

A compiler writes any bytes as a string of printable ASCII characters, and the string is read back as the same bytes.
-/

namespace AsmBridge

/-! ## Writing -/

/-- The bytes that are written as a backslash and a character. -/
def namedBytes : List (UInt8 × Char) :=
  [(0x22, '\x22'), (0x5c, '\\'), (0x08, 'b'), (0x0c, 'f'), (0x0a, 'n'), (0x0d, 'r'), (0x09, 't')]

/-- How a byte stands between double quotes. -/
def quoteByte (b : UInt8) : Text :=
  match namedBytes.lookup b with
  | some c => ['\\', c]
  | none =>
    if 0x20 ≤ b.toNat ∧ b.toNat < 0x7f then [Char.ofNat b.toNat]
    else ['\\', Nat.digitChar (b.toNat / 64), Nat.digitChar (b.toNat / 8 % 8), Nat.digitChar (b.toNat % 8)]

/-- A string literal. -/
def quote (bytes : List UInt8) : Text :=
  '\x22' :: (bytes.flatMap quoteByte ++ ['\x22'])

/-! ## Spellings of a byte -/

/-- What a character has to be to stand for a byte between double quotes: it is the byte, it names the byte behind a
backslash, or it is one of three octal digits. -/
inductive Spells (b : UInt8) : Text → Prop
  | plain {c : Char} (escape : c ≠ '\\') (quote : c ≠ '\x22') (line : c ≠ '\n') (code : c.toNat = b.toNat) : Spells b [c]
  | named {c : Char} (hex : c ≠ 'x') (octal : isOctalDigit c = false) (line : c ≠ '\n')
      (code : ((letterEscapes.lookup c).getD c).toNat = b.toNat) : Spells b ['\\', c]
  | octal {c d e : Char} (first : isOctalDigit c) (second : isOctalDigit d) (third : isOctalDigit e)
      (code : valueInBase 8 [c, d, e] = b.toNat) : Spells b ['\\', c, d, e]

theorem toNat_ofNat_byte (b : UInt8) : (Char.ofNat b.toNat).toNat = b.toNat := by
  have hvalid : b.toNat.isValidChar := .inl (Nat.lt_trans b.toNat_lt (by decide))
  rw [Char.ofNat, dif_pos hvalid]
  rfl

theorem isOctalDigit_digitChar {n : Nat} (h : n < 8) :
    isOctalDigit (Nat.digitChar n) ∧ Hex.digitValue? (Nat.digitChar n) = some n := by
  revert n
  decide

theorem spells_quoteByte (b : UInt8) : Spells b (quoteByte b) := by
  have hb := b.toNat_lt
  rw [quoteByte]
  split
  · rename_i c hc
    have hall : ∀ entry ∈ namedBytes, entry.2 ≠ 'x' ∧ isOctalDigit entry.2 = false ∧ entry.2 ≠ '\n' ∧
        ((letterEscapes.lookup entry.2).getD entry.2).toNat = entry.1.toNat := by
      decide
    obtain ⟨hx, ho, hn, hcode⟩ := hall (b, c) (mem_of_lookup_eq_some hc)
    exact .named hx ho hn hcode
  · rename_i hnone
    rw [List.lookup_eq_none_iff] at hnone
    split
    · rename_i hp
      have hcode := toNat_ofNat_byte b
      have hne : ∀ entry ∈ namedBytes, Char.ofNat b.toNat ≠ Char.ofNat entry.1.toNat := by
        intro entry he h
        have hall : ∀ entry ∈ namedBytes, (Char.ofNat entry.1.toNat).toNat = entry.1.toNat := by decide
        have hn := congrArg Char.toNat h
        rw [hcode, hall entry he] at hn
        exact bne_iff_ne.mp (hnone entry he) (UInt8.toNat_inj.mp hn)
      exact .plain (hne (0x5c, '\\') (by decide)) (hne (0x22, '\x22') (by decide)) (hne (0x0a, 'n') (by decide)) hcode
    · obtain ⟨h₁, hv₁⟩ := isOctalDigit_digitChar (n := b.toNat / 64) (by omega)
      obtain ⟨h₂, hv₂⟩ := isOctalDigit_digitChar (n := b.toNat / 8 % 8) (by omega)
      obtain ⟨h₃, hv₃⟩ := isOctalDigit_digitChar (n := b.toNat % 8) (by omega)
      refine .octal h₁ h₂ h₃ ?_
      simp only [valueInBase, List.foldl_cons, List.foldl_nil, hv₁, hv₂, hv₃, Option.getD_some]
      omega

theorem ne_of_isOctalDigit {c : Char} (h : isOctalDigit c) : c ≠ 'x' ∧ c ≠ '\\' ∧ c ≠ '\x22' ∧ c ≠ '\n' := by
  refine ⟨?_, ?_, ?_, ?_⟩
  all_goals
    rintro rfl
    exact absurd h (by decide)

/-! ## Reading -/

namespace Spells

variable {b : UInt8} {t : Text} (h : Spells b t)
include h

theorem isLiteralBody_append {body : Text} (hb : IsLiteralBody '\x22' body) : IsLiteralBody '\x22' (t ++ body) := by
  cases h with
  | plain escape quote line code => exact .plain quote escape hb
  | named hex octal line code => exact .escaped _ hb
  | octal first second third code =>
      have hd := ne_of_isOctalDigit second
      have he := ne_of_isOctalDigit third
      exact .escaped _ (.plain hd.2.2.1 hd.2.1 (.plain he.2.2.1 he.2.1 hb))

theorem oneLine : '\n' ∉ t := by
  cases h with
  | plain escape quote line code => simpa using line.symm
  | named hex octal line code => simpa using line.symm
  | octal first second third code =>
      simpa using ⟨(ne_of_isOctalDigit first).2.2.2.symm, (ne_of_isOctalDigit second).2.2.2.symm,
        (ne_of_isOctalDigit third).2.2.2.symm⟩

theorem unescape_append (r : Text) : unescape (t ++ r) = Char.ofNat b.toNat :: unescape r := by
  cases h with
  | plain escape quote line code =>
      rw [← code, Char.ofNat_toNat, List.cons_append, List.nil_append, unescape]
      rintro d r rfl
      exact absurd rfl escape
  | @named c hex octal line code =>
      have hread : readEscape c r = (Char.ofNat b.toNat, r) := by
        rw [← code, Char.ofNat_toNat]
        simp only [readEscape, beq_iff_eq, hex, octal, Bool.false_eq_true, ↓reduceIte]
      rw [List.cons_append, List.cons_append, List.nil_append, unescape, hread]
  | @octal c d e first second third code =>
      have hx := (ne_of_isOctalDigit first).1
      have hread : readEscape c (d :: e :: r) = (Char.ofNat b.toNat, r) := by
        rw [← code]
        simp [readEscape, hx, first, second, third]
      rw [List.cons_append, List.cons_append, List.cons_append, List.cons_append, List.nil_append, unescape, hread]

end Spells

theorem isLiteralBody_flatMap (bytes : List UInt8) : IsLiteralBody '\x22' (bytes.flatMap quoteByte) := by
  induction bytes with
  | nil => exact .nil
  | cons b bytes ih => exact (spells_quoteByte b).isLiteralBody_append ih

theorem isPiece_quote (bytes : List UInt8) : IsPiece (quote bytes) :=
  (isLiteralBody_flatMap bytes).isPiece rfl

/-- The bytes of a string are one piece, whatever they are. -/
theorem isOperand_quote (bytes : List UInt8) : IsOperand (quote bytes) where
  pieces := (isPiece_quote bytes).pieces
  trimmed := (isPiece_quote bytes).trimmed
  nonempty := (isPiece_quote bytes).nonempty
  oneLine := by
    intro hm
    rcases List.mem_cons.mp hm with hm | hm
    · exact absurd hm (by decide)
    · rcases List.mem_append.mp hm with hm | hm
      · obtain ⟨b, -, hm⟩ := List.mem_flatMap.mp hm
        exact (spells_quoteByte b).oneLine hm
      · exact absurd hm (by decide)

theorem unescape_flatMap (bytes : List UInt8) : unescape (bytes.flatMap quoteByte) = bytes.map fun b => Char.ofNat b.toNat := by
  induction bytes with
  | nil => rw [List.flatMap_nil, unescape, List.map_nil]
  | cons b bytes ih => rw [List.flatMap_cons, (spells_quoteByte b).unescape_append, ih, List.map_cons]

theorem unquote_quote (bytes : List UInt8) : unquote (quote bytes) = bytes.map fun b => Char.ofNat b.toNat := by
  have hq : isQuoted (quote bytes) = true := by
    rw [isQuoted, quote, ← List.cons_append, List.getLast?_concat]
    simp
  rw [unquote, if_pos hq, quote, List.tail_cons, List.dropLast_concat, unescape_flatMap]

theorem firstWide_eq_none {t : Text} (h : ∀ c ∈ t, c.toNat < 0x100) (position : Nat) : firstWide position t = none := by
  induction t generalizing position with
  | nil => rfl
  | cons c t ih =>
      obtain ⟨hc, ht⟩ := List.forall_mem_cons.mp h
      rw [firstWide, if_pos hc]
      exact ih ht (position + 1)

theorem encodeBytes_map (bytes : List UInt8) : encodeBytes (bytes.map fun b => Char.ofNat b.toNat) = .ok bytes := by
  have hw : firstWide 0 (bytes.map fun b => Char.ofNat b.toNat) = none := by
    refine firstWide_eq_none (List.forall_mem_map.mpr fun b _ => ?_) 0
    rw [toNat_ofNat_byte]
    exact b.toNat_lt
  have hmap : (bytes.map fun b => Char.ofNat b.toNat).map (fun c => UInt8.ofNat c.toNat) = bytes := by
    rw [List.map_map]
    simp [Function.comp_def, toNat_ofNat_byte]
  rw [encodeBytes, hw, hmap]

theorem ofStrings_quote (terminator : List UInt8) (strings : List (List UInt8)) :
    Image.ofStrings terminator (strings.map quote) = { bytes := strings.flatMap (· ++ terminator) } := by
  induction strings with
  | nil => rfl
  | cons bytes strings ih =>
      rw [List.map_cons, Image.ofStrings, unquote_quote, encodeBytes_map]
      simp only [ih]
      rfl

/-- The bytes of the strings of a directive are added to the constants as they are, each string with its terminator. -/
theorem Pool.readLine_strings {name : Text} {terminator : List UInt8} (hd : (name, terminator) ∈ stringDirectives)
    {p : Pool} (hc : p.inConstants) (strings : List (List UInt8)) {tail : Text} (ht : IsTail tail) (number : Nat) :
    p.readLine number (directiveLine name (strings.map quote) tail) =
      ({ p with data := p.data ++ strings.flatMap (· ++ terminator) }, none) := by
  have hall : ∀ d ∈ stringDirectives, d.1 ∈ dataDirectives ∧ numberDirectives.lookup d.1 = none ∧
      stringDirectives.lookup d.1 = some d.2 := by
    decide
  obtain ⟨hname, hnumber, hstring⟩ := hall _ hd
  have himage : Image.ofDirective name (strings.map quote) p.data.length = { bytes := strings.flatMap (· ++ terminator) } := by
    rw [Image.ofDirective, hnumber, hstring]
    exact ofStrings_quote terminator strings
  have ho : ∀ t ∈ strings.map quote, IsOperand t := List.forall_mem_map.mpr fun bytes _ => isOperand_quote bytes
  rw [readLine_directiveLine hname ho ht, if_pos hc, himage]
  simp only [add, settle, List.append_nil]

/-- Commas, comment marks, quotes and a digit behind an escape belong to the strings they stand in. -/
theorem Pool.readLine_strings_sample :
    let p : Pool := { inConstants := true, data := [1] }
    p.readLine 7 "\t.asciz\t\"a,#\\\"\\0011\", \"\\377\" # two".toList =
      ({ p with data := [1, 0x61, 0x2c, 0x23, 0x22, 0x01, 0x31, 0x00, 0xff, 0x00] }, none) := by
  intro p
  have htail : IsTail (" ".toList ++ "# two".toList) := .mk (by decide) (.inr (by decide)) (by decide)
  have h := readLine_strings (by decide : ("asciz".toList, [0]) ∈ stringDirectives) (p := p) rfl
    [[0x61, 0x2c, 0x23, 0x22, 0x01, 0x31], [0xff]] htail 7
  exact h

end AsmBridge
