import AsmBridge.Code.Bytes
import AsmBridge.Proofs.Number.Hex

/-!
# Machine code as it is written

The directives for machine code are as large as what is left of it allows, and their values give all its bytes back. So no two
codes are written alike.
-/

namespace AsmBridge

/-! ## Widths -/

/-- The widths of the directives for a number of bytes: eight as often as it goes, and each of the others once where the rest
of a division by the next larger one has room for it. -/
def Width.sequence (n : Nat) : List Width :=
  List.replicate (n / 8) quad ++ ((if 4 ≤ n % 8 then [long] else []) ++
    ((if 2 ≤ n % 4 then [word] else []) ++ if n % 2 = 1 then [byte] else []))

namespace Width

/-- The first directive has the largest width that there is room for, and the others are those of what is left. -/
theorem sequence_eq_cons {n : Nat} (hn : 0 < n) : sequence n = largest n :: sequence (n - (largest n).size) := by
  unfold largest
  split
  · rename_i h
    obtain ⟨m, rfl⟩ := Nat.exists_eq_add_of_le' h
    have hdiv : (m + 8) / 8 = m / 8 + 1 := by omega
    have hlong : (m + 8) % 8 = m % 8 := by omega
    have hword : (m + 8) % 4 = m % 4 := by omega
    have hbyte : (m + 8) % 2 = m % 2 := by omega
    have hrest : m + 8 - quad.size = m := Nat.add_sub_cancel m 8
    rw [hrest, sequence, sequence, hdiv, hlong, hword, hbyte, List.replicate_succ, List.cons_append]
  · have hall : ∀ n < 8, 0 < n → sequence n = (if 4 ≤ n then long else if 2 ≤ n then word else byte) ::
        sequence (n - (if 4 ≤ n then long else if 2 ≤ n then word else byte).size) := by
      decide
    exact hall n (by omega) hn

theorem length_render (w : Width) : w.render.length = 4 := by
  cases w <;> rfl

theorem render_injective : Function.Injective render := by
  intro v w
  cases v <;> cases w <;> decide

theorem semicolon_not_mem_render (w : Width) : ';' ∉ w.render := by
  cases w <;> decide

end Width

/-! ## Directives -/

namespace Chunk

theorem size_largest_le {n : Nat} (hn : 0 < n) : (Width.largest n).size ≤ n := by
  unfold Width.largest
  split
  · assumption
  · split
    · assumption
    · split
      · assumption
      · exact hn

theorem width_ofBytes (code : List UInt8) : (ofBytes code).map (·.width) = Width.sequence code.length := by
  induction code using ofBytes.induct with
  | case1 => rw [ofBytes]; rfl
  | case2 b rest width ih =>
      have hpos : 0 < (b :: rest).length := Nat.succ_pos rest.length
      rw [ofBytes, List.map_cons, ih, List.length_drop, Width.sequence_eq_cons hpos]

theorem length_bytes_of_mem_ofBytes {code : List UInt8} {chunk : Chunk} (h : chunk ∈ ofBytes code) :
    chunk.bytes.length = chunk.width.size := by
  induction code using ofBytes.induct with
  | case1 =>
      rw [ofBytes] at h
      cases h
  | case2 b rest width ih =>
      rw [ofBytes] at h
      rcases List.mem_cons.mp h with rfl | h
      · exact List.length_take_of_le (size_largest_le (Nat.succ_pos rest.length))
      · exact ih h

theorem flatMap_bytes_ofBytes (code : List UInt8) : (ofBytes code).flatMap (·.bytes) = code := by
  induction code using ofBytes.induct with
  | case1 => rw [ofBytes]; rfl
  | case2 b rest width ih => rw [ofBytes, List.flatMap_cons, ih, List.take_append_drop]

end Chunk

/-! ## Directives as they are written -/

/-- A directive as it is written. -/
structure WrittenChunk where
  width : Width
  value : Text

namespace WrittenChunk

/-- The text of a directive. -/
def text (c : WrittenChunk) : Text :=
  c.width.render ++ (" $0x".toList ++ c.value)

/-- The bytes of a directive, the lowest one first. -/
def bytes (c : WrittenChunk) : List UInt8 :=
  littleEndian c.width.size (valueInBase 16 c.value : Nat)

/-- A directive with the digits that are written for it. -/
def ofChunk (c : Chunk) : WrittenChunk where
  width := c.width
  value := Hex.ofLittleEndian c.bytes

theorem text_injective : Function.Injective text := by
  rintro ⟨v, x⟩ ⟨w, y⟩ h
  obtain ⟨hname, hvalue⟩ := List.append_inj h (v.length_render.trans w.length_render.symm)
  obtain rfl := Width.render_injective hname
  obtain rfl := List.append_cancel_left hvalue
  rfl

theorem text_ne_nil (c : WrittenChunk) : c.text ≠ [] :=
  List.append_ne_nil_of_left_ne_nil (List.ne_nil_of_length_pos (c.width.length_render ▸ Nat.succ_pos 3)) _

/-- No directive holds the mark that stands between two of them. -/
theorem semicolon_not_mem_text {c : WrittenChunk} {n : Nat} (h : Hex.Fills n c.value) : ';' ∉ c.text := by
  have hvalue : ';' ∉ c.value := fun hm => absurd (h.2 _ hm) (by decide)
  rw [text, List.mem_append, List.mem_append, not_or, not_or]
  exact ⟨c.width.semicolon_not_mem_render, by decide, hvalue⟩

end WrittenChunk

/-! ## Machine code as it is written -/

/-- The directives for machine code with the digits that are written for them. -/
def writtenChunks (code : List UInt8) : List WrittenChunk :=
  (Chunk.ofBytes code).map .ofChunk

section

variable {code : List UInt8}

theorem renderBytes_eq_writtenChunks (code : List UInt8) :
    renderBytes code = List.intercalate "; ".toList ((writtenChunks code).map (·.text)) := by
  rw [renderBytes, writtenChunks, List.map_map]
  refine congrArg _ (List.map_congr_left fun chunk _ => ?_)
  rw [Chunk.render, List.append_assoc]
  rfl

theorem fills_of_mem_writtenChunks {c : WrittenChunk} (h : c ∈ writtenChunks code) :
    Hex.Fills (2 * c.width.size) c.value := by
  obtain ⟨chunk, hm, rfl⟩ := List.mem_map.mp h
  have hfills := Hex.fills_ofLittleEndian chunk.bytes
  rwa [Chunk.length_bytes_of_mem_ofBytes hm] at hfills

theorem flatMap_bytes_writtenChunks (code : List UInt8) : (writtenChunks code).flatMap (·.bytes) = code := by
  have hmap : (writtenChunks code).map (·.bytes) = (Chunk.ofBytes code).map (·.bytes) := by
    rw [writtenChunks, List.map_map]
    refine List.map_congr_left fun chunk hm => ?_
    have hbytes := littleEndian_ofLittleEndian chunk.bytes
    rwa [Chunk.length_bytes_of_mem_ofBytes hm] at hbytes
  rw [List.flatMap_def, hmap, ← List.flatMap_def, Chunk.flatMap_bytes_ofBytes]

end

/-! ## Directives side by side -/

/-- The texts between semicolons, without the blank in front of each but the first. -/
def splitDirectives (t : Text) : List Text :=
  match t.splitOn ';' with
  | [] => []
  | first :: rest => if t = [] then [] else first :: rest.map (·.drop 1)

theorem intercalate_cons_head (mark : Text) (c : Char) (first : Text) (rest : List Text) :
    List.intercalate mark ((c :: first) :: rest) = c :: List.intercalate mark (first :: rest) := by
  cases rest with
  | nil => rw [List.intercalate_singleton, List.intercalate_singleton]
  | cons next rest => rw [List.intercalate_cons_cons, List.intercalate_cons_cons, List.cons_append, List.cons_append]

/-- The blank behind a semicolon can be taken for the first character of the next text. -/
theorem intercalate_semicolon (first : Text) (rest : List Text) :
    List.intercalate "; ".toList (first :: rest) = List.intercalate [';'] (first :: rest.map (' ' :: ·)) := by
  induction rest generalizing first with
  | nil => rw [List.map_nil, List.intercalate_singleton, List.intercalate_singleton]
  | cons next rest ih =>
      rw [List.intercalate_cons_cons, ih, List.map_cons, List.intercalate_cons_cons, intercalate_cons_head, List.append_assoc,
        List.append_assoc]
      rfl

theorem splitDirectives_intercalate {texts : List Text} (h : ∀ t ∈ texts, t ≠ [] ∧ ';' ∉ t) :
    splitDirectives (List.intercalate "; ".toList texts) = texts := by
  cases texts with
  | nil => rfl
  | cons first rest =>
      obtain ⟨⟨hne, hfirst⟩, hrest⟩ := List.forall_mem_cons.mp h
      have hmark : ∀ t ∈ first :: rest.map (' ' :: ·), ';' ∉ t := by
        refine List.forall_mem_cons.mpr ⟨hfirst, List.forall_mem_map.mpr fun t ht => ?_⟩
        exact List.not_mem_cons_of_ne_of_not_mem (by decide) (hrest t ht).2
      have hjoined : List.intercalate [';'] (first :: rest.map (' ' :: ·)) ≠ [] := by
        obtain ⟨c, r, rfl⟩ := List.exists_cons_of_ne_nil hne
        rw [intercalate_cons_head]
        exact List.cons_ne_nil _ _
      rw [intercalate_semicolon, splitDirectives, List.splitOn_intercalate ';' hmark (List.cons_ne_nil _ _)]
      simp only [hjoined, ↓reduceIte, List.map_map]
      exact congrArg (first :: ·) (List.map_id rest)

/-- The directives for machine code are as large as what is left of it allows, and each has the digits that its width takes.
Their values are the bytes of the code, so that no other code is written in the same way. -/
theorem renderBytes_lossless (code : List UInt8) :
    ∃ chunks : List WrittenChunk,
      renderBytes code = List.intercalate "; ".toList (chunks.map (·.text)) ∧
      chunks.map (·.width) = Width.sequence code.length ∧
      (∀ c ∈ chunks, Hex.Fills (2 * c.width.size) c.value) ∧
      chunks.flatMap (·.bytes) = code ∧
      ∀ other, renderBytes other = renderBytes code → other = code := by
  have hsplit (code : List UInt8) : splitDirectives (renderBytes code) = (writtenChunks code).map (·.text) := by
    rw [renderBytes_eq_writtenChunks]
    refine splitDirectives_intercalate (List.forall_mem_map.mpr fun c hc => ⟨c.text_ne_nil, ?_⟩)
    exact WrittenChunk.semicolon_not_mem_text (fills_of_mem_writtenChunks hc)
  refine ⟨writtenChunks code, renderBytes_eq_writtenChunks code, ?_, fun c hc => fills_of_mem_writtenChunks hc,
    flatMap_bytes_writtenChunks code, fun other h => ?_⟩
  · rw [writtenChunks, List.map_map, ← Chunk.width_ofBytes]
    rfl
  · have htexts : (writtenChunks other).map (·.text) = (writtenChunks code).map (·.text) := by
      rw [← hsplit, ← hsplit, h]
    have hchunks := List.map_injective_iff.mpr WrittenChunk.text_injective htexts
    rw [← flatMap_bytes_writtenChunks other, hchunks, flatMap_bytes_writtenChunks]

end AsmBridge
