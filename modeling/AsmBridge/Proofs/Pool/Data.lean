import AsmBridge.Proofs.Pool.Placement

/-!
# Constants as they are written

The lines for the constants of a table stand for all their bytes: the words follow each other without a gap, and their values
give the bytes back, with the zeros behind them up to a whole number of words.
-/

namespace AsmBridge

/-! ## Words -/

/-- Where the bytes fill whole words, so do those behind the first word. -/
theorem whole_words_cons {b : UInt8} {rest : List UInt8} (h : 8 ∣ (b :: rest).length) :
    8 ≤ (b :: rest).length ∧ 8 ∣ ((b :: rest).drop wordSize).length := by
  refine ⟨Nat.le_of_dvd (Nat.succ_pos _) h, ?_⟩
  rw [List.length_drop]
  exact Nat.dvd_sub h (Nat.dvd_refl 8)

theorem length_words {bytes : List UInt8} (h : 8 ∣ bytes.length) : (words bytes).length = bytes.length / 8 := by
  induction bytes using words.induct with
  | case1 =>
      rw [words]
      rfl
  | case2 b rest ih =>
      obtain ⟨hlength, hdvd⟩ := whole_words_cons h
      rw [words, List.length_cons, ih hdvd, List.length_drop, wordSize]
      omega

theorem flatten_words (bytes : List UInt8) : (words bytes).flatten = bytes := by
  induction bytes using words.induct with
  | case1 =>
      rw [words]
      rfl
  | case2 b rest ih => rw [words, List.flatten_cons, ih, List.take_append_drop]

theorem length_of_mem_words {bytes word : List UInt8} (h : 8 ∣ bytes.length) (hw : word ∈ words bytes) : word.length = 8 := by
  induction bytes using words.induct with
  | case1 =>
      rw [words] at hw
      cases hw
  | case2 b rest ih =>
      obtain ⟨hlength, hdvd⟩ := whole_words_cons h
      rw [words] at hw
      rcases List.mem_cons.mp hw with rfl | hw
      · exact List.length_take_of_le hlength
      · exact ih hdvd hw

/-! ## Words as they are written -/

/-- A word of a table as it is written. -/
structure WrittenWord where
  offset : Text
  value : Text

namespace WrittenWord

/-- The line that places a word in a table. -/
def line (name : Text) (w : WrittenWord) : Text :=
  wordOpening name ++ (w.offset ++ (wordMiddle ++ w.value))

/-- The bytes of a word, the lowest one first. -/
def bytes (w : WrittenWord) : List UInt8 :=
  littleEndian wordSize (valueInBase 16 w.value : Nat)

/-- Whether a word is written for an offset. An offset has three digits, and more only where it needs them. -/
structure StandsAt (w : WrittenWord) (offset : Nat) : Prop where
  reads : Hex.digits? w.offset = some offset
  three : 3 ≤ w.offset.length
  outgrows : 3 < w.offset.length ↔ 0xfff < offset
  value : Hex.Fills 16 w.value

/-- A word with the digits that are written for it. -/
def ofWord (offset : Nat) (word : List UInt8) : WrittenWord where
  offset := Hex.ofNat 3 offset
  value := Hex.ofLittleEndian word

variable {offset : Nat} {word : List UInt8} (h : word.length = 8)
include h

theorem standsAt_ofWord : (ofWord offset word).StandsAt offset := by
  obtain ⟨hthree, houtgrows⟩ := Hex.length_ofNat (by decide : 0 < 3) offset
  have hvalue := Hex.fills_ofLittleEndian word
  rw [h] at hvalue
  exact ⟨Hex.digits?_ofNat 3 offset, hthree, houtgrows, hvalue⟩

theorem bytes_ofWord : (ofWord offset word).bytes = word := by
  have hbytes := littleEndian_ofLittleEndian word
  rwa [h] at hbytes

end WrittenWord

/-- The words of a table with the digits that are written for them. -/
def writtenWords (bytes : List UInt8) : List WrittenWord :=
  (words bytes).mapIdx fun i => .ofWord (wordSize * i)

section

variable {bytes : List UInt8} (h : 8 ∣ bytes.length)
include h

theorem length_writtenWords : (writtenWords bytes).length = bytes.length / 8 := by
  rw [writtenWords, List.length_mapIdx, length_words h]

theorem standsAt_writtenWords (i : Nat) (hi : i < (writtenWords bytes).length) : (writtenWords bytes)[i].StandsAt (8 * i) := by
  have hw : i < (words bytes).length := List.length_mapIdx ▸ hi
  have he : (writtenWords bytes)[i] = .ofWord (8 * i) (words bytes)[i] := List.getElem_mapIdx
  rw [he]
  exact WrittenWord.standsAt_ofWord (length_of_mem_words h (List.getElem_mem _))

theorem flatMap_bytes_writtenWords : (writtenWords bytes).flatMap (·.bytes) = bytes := by
  have hmap : (writtenWords bytes).map (·.bytes) = words bytes := by
    refine List.ext_getElem (by rw [List.length_map, writtenWords, List.length_mapIdx]) fun i hi hw => ?_
    simp only [writtenWords, List.getElem_map, List.getElem_mapIdx]
    exact WrittenWord.bytes_ofWord (length_of_mem_words h (List.getElem_mem _))
  rw [List.flatMap_def, hmap, flatten_words]

end

/-! ## Tables as they are written -/

theorem dataLines_eq_writtenWords (name : Text) (bytes : List UInt8) :
    dataLines name bytes =
      (writtenWords (padToWords bytes)).map (·.line name) ++ [globalLine name (padToWords bytes).length] := by
  rw [dataLines, writtenWords, List.mapIdx_eq_zipIdx_map, List.map_map]
  exact congrArg (· ++ _) (List.map_congr_left fun p _ => dataLine_eq name (wordSize * p.2) p.1)

theorem exists_padToWords (bytes : List UInt8) :
    ∃ zeros < 8, padToWords bytes = bytes ++ List.replicate zeros 0 ∧ (padToWords bytes).length = bytes.length + zeros := by
  refine ⟨(wordSize - bytes.length % wordSize) % wordSize, Nat.mod_lt _ (by decide), rfl, ?_⟩
  rw [padToWords, List.length_append, List.length_replicate]

/-- Tables are written alike only where the same bytes stand in them. -/
theorem padToWords_eq_of_dataLines_eq {name : Text} {bytes other : List UInt8} (h : dataLines name other = dataLines name bytes) :
    padToWords other = padToWords bytes := by
  refine List.ext_getElem? fun i => ?_
  rw [← findSome?_placedByte?_dataLines name, ← findSome?_placedByte?_dataLines name, h]

/-- The constants of a table are written in as many words as they need, without gaps between their offsets. The values of
the words are the bytes of the table, filled with zeros up to a whole number of words, and the last line has the number of
these. -/
theorem dataLines_lossless (name : Text) (bytes : List UInt8) :
    ∃ (words : List WrittenWord) (size : Text) (zeros : Nat),
      dataLines name bytes = words.map (·.line name) ++ [sizeOpening name ++ size] ∧
      words.length = (bytes.length + 7) / 8 ∧
      (∀ i (hi : i < words.length), words[i].StandsAt (8 * i)) ∧
      words.flatMap (·.bytes) = padToWords bytes ∧
      padToWords bytes = bytes ++ List.replicate zeros 0 ∧ zeros < 8 ∧ 8 ∣ bytes.length + zeros ∧
      Decimal.digits? size = some (bytes.length + zeros) ∧
      ∀ other, dataLines name other = dataLines name bytes ↔ padToWords other = padToWords bytes := by
  obtain ⟨zeros, hzeros, hpadded, hlength⟩ := exists_padToWords bytes
  have hdvd := eight_dvd_length_padToWords bytes
  refine ⟨writtenWords (padToWords bytes), Decimal.ofNat (padToWords bytes).length, zeros, dataLines_eq_writtenWords name bytes,
    ?_, standsAt_writtenWords hdvd, flatMap_bytes_writtenWords hdvd, hpadded, hzeros, hlength ▸ hdvd, ?_,
    fun other => ⟨padToWords_eq_of_dataLines_eq, fun h => ?_⟩⟩
  · rw [length_writtenWords hdvd, hlength]
    omega
  · rw [hlength, Decimal.digits?_ofNat]
  · rw [dataLines, dataLines, h]

end AsmBridge
