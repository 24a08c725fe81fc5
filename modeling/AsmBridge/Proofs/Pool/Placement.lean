import AsmBridge.Pool.Data
import AsmBridge.Proofs.Frame.Lemmas.Reading
import AsmBridge.Proofs.Number.Hex

/-!
# Constants that are read back

The lines for the constants of a table are read one by one: a line places the bytes of a word, the lowest first, or
declares the size of the table. All bytes are found where they are in the pool.
-/

namespace AsmBridge

/-! ## Reading -/

/-- What a line that places a word in a table starts with. -/
def wordOpening (name : Text) : Text :=
  "DATA ".toList ++ name ++ "<>+0x".toList

/-- What stands between the offset of a word and its value. -/
def wordMiddle : Text :=
  "(SB)/8, $0x".toList

/-- What a line that declares a table starts with. -/
def sizeOpening (name : Text) : Text :=
  "GLOBL ".toList ++ name ++ "<>(SB), 8, $".toList

/-- The offset and the value of the word that a line places in a table. -/
def placedWord? (name line : Text) : Option (Nat × Nat) := do
  let rest ← line.after? (wordOpening name)
  let (offset, value) ← rest.cut? wordMiddle
  return (← Hex.digits? offset, ← Hex.digits? value)

/-- The byte that a line places at an offset in a table. -/
def placedByte? (name : Text) (offset : Nat) (line : Text) : Option UInt8 :=
  match placedWord? name line with
  | some (start, value) =>
    if start ≤ offset ∧ offset < start + 8 then some (UInt8.ofNat (value / 256 ^ (offset - start))) else none
  | none => none

/-- The size that a line declares for a table. -/
def declaredSize? (name line : Text) : Option Nat :=
  (line.after? (sizeOpening name)).bind Decimal.digits?

/-- Whether lines place bytes in a table from an offset on, and zeros behind them up to its size. -/
def PlacesFrom (name : Text) (lines : List Text) (offset : Nat) (bytes : List UInt8) : Prop :=
  ∃ zeros, lines.findSome? (declaredSize? name) = some (offset + bytes.length + zeros) ∧
    ∀ i < bytes.length + zeros,
      lines.findSome? (placedByte? name (offset + i)) = (bytes ++ List.replicate zeros 0)[i]?

/-! ## Lines -/

theorem dataLine_eq (name : Text) (offset : Nat) (word : List UInt8) :
    dataLine name offset word =
      wordOpening name ++ (Hex.ofNat 3 offset ++ (wordMiddle ++ Hex.ofLittleEndian word)) := by
  change wordOpening name ++ Hex.ofNat 3 offset ++ wordMiddle ++ Hex.ofLittleEndian word = _
  simp only [List.append_assoc]

theorem placedWord?_dataLine (name : Text) (offset : Nat) {word : List UInt8} (h : word ≠ []) :
    placedWord? name (dataLine name offset word) = some (offset, Nat.ofDigits 256 (word.map (·.toNat))) := by
  have hparen : '(' ∉ Hex.ofNat 3 offset := fun hm => by
    obtain ⟨d, -, hd⟩ := areDigits_hex 3 offset _ hm
    cases hd
  have hcut : Text.cut? (Hex.ofNat 3 offset ++ (wordMiddle ++ Hex.ofLittleEndian word)) wordMiddle =
      some (Hex.ofNat 3 offset, Hex.ofLittleEndian word) :=
    Text.cut?_append hparen "SB)/8, $0x".toList _
  simp only [placedWord?, dataLine_eq, Text.after?_append, Option.bind_eq_bind, Option.bind_some, hcut, Hex.digits?_ofNat,
    Hex.digits?_ofLittleEndian h, pure]

theorem placedByte?_dataLine (name : Text) (start offset : Nat) {word : List UInt8} (h : word.length = 8) :
    placedByte? name offset (dataLine name start word) = if start ≤ offset then word[offset - start]? else none := by
  rw [placedByte?, placedWord?_dataLine name start (List.ne_nil_of_length_pos (by omega))]
  simp only
  by_cases hs : start ≤ offset
  · by_cases hi : offset < start + 8
    · rw [if_pos ⟨hs, hi⟩, if_pos hs, byte_of_ofDigits word (by omega), List.getElem?_eq_getElem]
    · rw [if_neg (fun h => hi h.2), if_pos hs, List.getElem?_eq_none (by omega)]
  · rw [if_neg (fun h => hs h.1), if_neg hs]

theorem placedByte?_eq_none (name : Text) (offset : Nat) {line : Text} (h : line.head? ≠ some 'D') :
    placedByte? name offset line = none := by
  have hnone : line.after? (wordOpening name) = none := Text.after?_eq_none_of_head? rfl h
  rw [placedByte?, placedWord?, hnone]
  rfl

theorem declaredSize?_eq_none (name : Text) {line : Text} (h : line.head? ≠ some 'G') : declaredSize? name line = none := by
  have hnone : line.after? (sizeOpening name) = none := Text.after?_eq_none_of_head? rfl h
  rw [declaredSize?, hnone]
  rfl

theorem declaredSize?_globalLine (name : Text) (size : Nat) : declaredSize? name (globalLine name size) = some size := by
  have hline : globalLine name size = sizeOpening name ++ Decimal.ofNat size := rfl
  rw [declaredSize?, hline, Text.after?_append, Option.bind_some, Decimal.digits?_ofNat]

/-! ## All lines -/

/-- The lines for words, numbered from an index on, place the bytes of the words from there on. -/
theorem findSome?_placedByte?_words (name : Text) {bytes : List UInt8} (h : 8 ∣ bytes.length) (index i : Nat) :
    (((words bytes).zipIdx index).map fun (word, index) => dataLine name (wordSize * index) word).findSome?
      (placedByte? name (wordSize * index + i)) = bytes[i]? := by
  induction bytes using words.induct generalizing index i with
  | case1 =>
      rw [words]
      rfl
  | case2 b rest ih =>
      have hlength : 8 ≤ (b :: rest).length := Nat.le_of_dvd (Nat.succ_pos _) h
      have hword : ((b :: rest).take wordSize).length = 8 := by
        rw [List.length_take, wordSize]
        omega
      have hdrop : 8 ∣ ((b :: rest).drop wordSize).length := by
        rw [List.length_drop]
        exact Nat.dvd_sub h (Nat.dvd_refl 8)
      rw [words, List.zipIdx_cons, List.map_cons, List.findSome?_cons, placedByte?_dataLine _ _ _ hword,
        if_pos (Nat.le_add_right _ _), Nat.add_sub_cancel_left]
      by_cases hi : i < 8
      · rw [List.getElem?_take_of_lt (show i < wordSize from hi), List.getElem?_eq_getElem (by omega)]
      · have hnone : ((b :: rest).take wordSize)[i]? = none := List.getElem?_eq_none (by omega)
        have hoffset : wordSize * index + i = wordSize * (index + 1) + (i - 8) := by
          rw [wordSize]
          omega
        rw [hnone, hoffset]
        simp only
        rw [ih hdrop, List.getElem?_drop, wordSize]
        congr 1
        omega

theorem eight_dvd_length_padToWords (bytes : List UInt8) : 8 ∣ (padToWords bytes).length := by
  rw [padToWords, List.length_append, List.length_replicate, wordSize]
  omega

theorem head?_dataLine (name : Text) (offset : Nat) (word : List UInt8) : (dataLine name offset word).head? = some 'D' := rfl

theorem head?_globalLine (name : Text) (size : Nat) : (globalLine name size).head? = some 'G' := rfl

theorem findSome?_placedByte?_dataLines (name : Text) (bytes : List UInt8) (i : Nat) :
    (dataLines name bytes).findSome? (placedByte? name i) = (padToWords bytes)[i]? := by
  have hwords := findSome?_placedByte?_words name (eight_dvd_length_padToWords bytes) 0 i
  rw [Nat.mul_zero, Nat.zero_add] at hwords
  have hglobal : [globalLine name (padToWords bytes).length].findSome? (placedByte? name i) = none := by
    rw [List.findSome?_singleton]
    exact placedByte?_eq_none name i (by simp [head?_globalLine])
  rw [dataLines, List.findSome?_append, hwords, hglobal, Option.or_none]

theorem findSome?_declaredSize?_dataLines (name : Text) (bytes : List UInt8) :
    (dataLines name bytes).findSome? (declaredSize? name) = some (padToWords bytes).length := by
  have hwords : (((words (padToWords bytes)).zipIdx.map fun (word, index) => dataLine name (wordSize * index) word).findSome?
      (declaredSize? name)) = none := by
    rw [List.findSome?_eq_none_iff]
    intro line hl
    obtain ⟨⟨word, index⟩, -, rfl⟩ := List.mem_map.mp hl
    exact declaredSize?_eq_none name (by simp [head?_dataLine])
  rw [dataLines, List.findSome?_append, hwords, Option.none_or, List.findSome?_singleton, declaredSize?_globalLine]

/-- The bytes of a table are placed where they are, if lines of other kinds stand in front. -/
theorem placesFrom_dataLines {front : List Text} (hf : ∀ line ∈ front, line.head? ∉ [some 'D', some 'G']) (name : Text)
    (before bytes : List UInt8) (rest : List Text) :
    PlacesFrom name (front ++ (dataLines name (before ++ bytes) ++ rest)) before.length bytes := by
  have hfront : ∀ {α : Type} (read : Text → Option α), (∀ line ∈ front, read line = none) → ∀ lines : List Text,
      (front ++ lines).findSome? read = lines.findSome? read := fun read hread lines => by
    rw [List.findSome?_append, List.findSome?_eq_none_iff.mpr hread, Option.none_or]
  have hbyte : ∀ i, ∀ line ∈ front, placedByte? name i line = none := fun i line hl =>
    placedByte?_eq_none name i fun h => hf line hl (by simp [h])
  have hsize : ∀ line ∈ front, declaredSize? name line = none := fun line hl =>
    declaredSize?_eq_none name fun h => hf line hl (by simp [h])
  let zeros := (wordSize - (before ++ bytes).length % wordSize) % wordSize
  have hpadded : padToWords (before ++ bytes) = before ++ (bytes ++ List.replicate zeros 0) := List.append_assoc _ _ _
  refine ⟨zeros, ?_, fun i hi => ?_⟩
  · rw [hfront _ hsize, List.findSome?_append, findSome?_declaredSize?_dataLines, hpadded]
    simp [Nat.add_assoc]
  · rw [hfront _ (hbyte _), List.findSome?_append, findSome?_placedByte?_dataLines, hpadded,
      List.getElem?_append_right (Nat.le_add_right _ _), Nat.add_sub_cancel_left]
    have hlt : i < (bytes ++ List.replicate zeros 0).length := by
      rwa [List.length_append, List.length_replicate]
    rw [List.getElem?_eq_getElem hlt, Option.some_or]

end AsmBridge
