import AsmBridge.Proofs.Pool.Lemmas.DataItem
import Mathlib.Data.List.Nodup

/-!
# The layout of constants

A listing of section switches, labels and directives with numbers is gathered into the bytes that the directives in the
sections with constants stand for, one after the other, and each label stands for the place where it was met last.
-/

namespace AsmBridge

/-! ## Items -/

/-- The characters of the names that a compiler gives. -/
def nameChars : Text :=
  ".ABCDEFGHIJKLMNOPQRSTUVWXYZabcdefghijklmnopqrstuvwxyz0123456789_$".toList

/-- A line of a listing that has a part in its constants. -/
inductive PoolItem
  /-- A section with constants, whose name goes on as it likes. -/
  | constants (suffix : Text) (oneLine : '\n' ∉ suffix)
  | text
  | data
  | label (name : Text) (nonempty : name ≠ []) (plain : ∀ c ∈ name, c ∈ nameChars)
  | bytes (item : DataItem)

def PoolItem.render : PoolItem → Text
  | constants suffix _ => "\t.section\t.rodata".toList ++ suffix
  | text => "\t.text".toList
  | data => "\t.data".toList
  | label name _ _ => name ++ [':']
  | bytes item => directiveLine item.directive item.operands []

/-! ## Layouts -/

/-- The constants that items stand for. -/
structure PoolLayout where
  inConstants : Bool := false
  data : List UInt8 := []
  /-- The labels in sections with constants, each with the length of the data in front of it. -/
  definitions : List (Text × Nat) := []

/-- The offset of the last definition of a name. -/
def lastOffset (definitions : List (Text × Nat)) (name : Text) : Nat :=
  (definitions.reverse.lookup name).getD 0

/-- The names in the order of first definition, each with its last offset. -/
def lastOffsets (definitions : List (Text × Nat)) : List (Text × Nat) :=
  (definitions.map (·.1)).eraseDups.map fun name => (name, lastOffset definitions name)

namespace PoolLayout

/-- The layout with one more item. -/
def add (l : PoolLayout) : PoolItem → PoolLayout
  | .constants _ _ => { l with inConstants := true }
  | .text | .data => { l with inConstants := false }
  | .label name _ _ =>
    if l.inConstants then { l with definitions := l.definitions ++ [(name, l.data.length)] } else l
  | .bytes item => if l.inConstants then { l with data := l.data ++ item.image l.data.length } else l

/-- Whether the machine can hold the bytes of an item. -/
def Fits (l : PoolLayout) : PoolItem → Prop
  | .bytes item => l.inConstants = true → item.Fits l.data.length
  | _ => True

/-- Whether the machine can hold the bytes of items, each where it comes. -/
def FitAll (l : PoolLayout) : List PoolItem → Prop
  | [] => True
  | item :: items => l.Fits item ∧ (l.add item).FitAll items

/-- The layout of items. -/
def ofItems (items : List PoolItem) : PoolLayout :=
  items.foldl add {}

/-- What is gathered for a layout: no warnings among it. -/
def pool (l : PoolLayout) : Pool :=
  { inConstants := l.inConstants, data := l.data, labels := lastOffsets l.definitions }

end PoolLayout

/-! ## Labels -/

theorem eraseDups_concat (names : List Text) (name : Text) :
    (names ++ [name]).eraseDups = if name ∈ names then names.eraseDups else names.eraseDups ++ [name] := by
  rw [List.eraseDups_append]
  by_cases h : name ∈ names
  · have hall : [name].removeAll names = [] := by simp [List.removeAll, h]
    rw [hall, if_pos h]
    exact List.append_nil _
  · have hall : [name].removeAll names = [name] := by simp [List.removeAll, h]
    rw [hall, if_neg h]
    rfl

theorem nodup_eraseDups (names : List Text) : names.eraseDups.Nodup := by
  induction names using List.reverseRecOn with
  | nil => exact List.nodup_nil
  | append_singleton names name ih =>
      rw [eraseDups_concat]
      split
      · exact ih
      · rename_i h
        exact List.nodup_append.mpr ⟨ih, List.nodup_singleton name, by simpa using fun n hn => ne_of_mem_of_not_mem hn h⟩

theorem putLabel_map {names : List Text} (h : names.Nodup) (f : Text → Nat) (name : Text) (offset : Nat) :
    putLabel name offset (names.map fun n => (n, f n)) =
      (if name ∈ names then names else names ++ [name]).map fun n => (n, if n = name then offset else f n) := by
  induction names with
  | nil => simp [putLabel]
  | cons first names ih =>
      obtain ⟨hfirst, hnames⟩ := List.nodup_cons.mp h
      rw [List.map_cons, putLabel]
      by_cases he : first = name
      · subst he
        have hrest : (names.map fun n => (n, if n = first then offset else f n)) = names.map fun n => (n, f n) :=
          List.map_congr_left fun n hn => by rw [if_neg (ne_of_mem_of_not_mem hn hfirst)]
        simp only [beq_self_eq_true, List.mem_cons_self, ↓reduceIte, List.map_cons, hrest]
      · simp only [beq_iff_eq, he, ↓reduceIte, ih hnames, List.mem_cons, Ne.symm he, false_or]
        split <;> simp only [List.cons_append, List.map_cons, he, ↓reduceIte]

theorem lastOffset_concat (definitions : List (Text × Nat)) (name : Text) (offset : Nat) (n : Text) :
    lastOffset (definitions ++ [(name, offset)]) n = if n = name then offset else lastOffset definitions n := by
  rw [lastOffset, List.reverse_append, List.reverse_singleton, List.singleton_append, List.lookup_cons]
  by_cases h : n = name
  · simp [h]
  · have hb : (n == name) = false := beq_eq_false_iff_ne.mpr h
    rw [hb, if_neg h]
    rfl

/-- Noting a label is one more definition. -/
theorem putLabel_lastOffsets (definitions : List (Text × Nat)) (name : Text) (offset : Nat) :
    putLabel name offset (lastOffsets definitions) = lastOffsets (definitions ++ [(name, offset)]) := by
  rw [lastOffsets, putLabel_map (nodup_eraseDups _), lastOffsets, List.map_append, List.map_singleton, eraseDups_concat]
  simp only [lastOffset_concat, List.mem_eraseDups]

/-! ## Sections -/

theorem Text.trim_append_left {x : Text} (hx : x.IsTrimmed) (hn : x ≠ []) (t : Text) : Text.trim (x ++ t) = x ++ t.trimEnd := by
  obtain ⟨blanks, hb, he, hlast⟩ := Text.exists_trimEnd t
  have htrimmed : (x ++ t.trimEnd).IsTrimmed := by
    refine ⟨?_, ?_⟩
    · rw [List.head?_append_of_ne_nil _ hn]
      exact hx.1
    · rw [List.getLast?_append]
      cases hg : t.trimEnd.getLast? with
      | none => exact hx.2
      | some c => simpa using hlast c hg
  have htrim := Text.trim_append (List.forall_mem_nil _) hb htrimmed
  rwa [List.nil_append, List.append_assoc, ← he] at htrim

/-- A section whose name starts with the name of constants has constants, however the line goes on. -/
theorem namesConstants_rodata (suffix : Text) : namesConstants (splitOperands ("\t.rodata".toList ++ suffix)) = true := by
  have htab : isBlank '\t' = true := by decide
  have hplain : ∀ c ∈ ".rodata".toList, isPlain c = true := by decide
  have htrimmed : Text.IsTrimmed ".rodata".toList := ⟨by decide, by decide⟩
  obtain ⟨piece, pieces, hp⟩ := exists_piecesFrom_none suffix
  have hsplit : splitOperands ("\t.rodata".toList ++ suffix) =
      (".rodata".toList ++ piece.trimEnd) :: (pieces.map Text.trim).filter (!·.isEmpty) := by
    refine (splitOperands_cons htab (".rodata".toList ++ suffix)).trans ?_
    rw [splitOperands, piecesFrom_append hplain, hp, foldr_pushFirst, List.map_cons,
      Text.trim_append_left htrimmed (by decide), List.filter_cons]
    rfl
  obtain ⟨rest, hjoin⟩ : ∃ rest, List.intercalate ",".toList (splitOperands ("\t.rodata".toList ++ suffix)) =
      ".rodata".toList ++ rest := by
    rw [hsplit]
    cases (pieces.map Text.trim).filter (!·.isEmpty) with
    | nil => exact ⟨_, List.intercalate_singleton⟩
    | cons t parts =>
        refine ⟨piece.trimEnd ++ (",".toList ++ List.intercalate ",".toList (t :: parts)), ?_⟩
        rw [List.intercalate_cons_cons, List.append_assoc, List.append_assoc]
  have hincludes : Text.includes (Text.toLower (".rodata".toList ++ rest)) "rodata".toList = true := by
    rw [Text.includes, Option.isSome_iff_ne_none, ne_eq, Text.cut?_eq_none_iff, not_not]
    exact ⟨".".toList, Text.lowerAfter ".rodata".toList.reverse rest, rfl⟩
  rw [namesConstants, hjoin]
  exact List.any_eq_true.mpr ⟨"rodata".toList, by decide, hincludes⟩

/-! ## Lines -/

namespace PoolItem

variable (p : Pool) (number : Nat)

theorem readLine_constants {suffix : Text} (h : '\n' ∉ suffix) :
    p.readLine number (constants suffix h).render = ({ p with inConstants := true }, none) := by
  have hl : '\n' ∉ "\t.rodata".toList ++ suffix := by
    rw [List.mem_append, not_or]
    exact ⟨by decide, h⟩
  have hhead : ∀ c ∈ ("\t.rodata".toList ++ suffix).head?, isBlank c = true := by
    intro c hc
    cases hc
    decide
  have hword : ∀ c ∈ "section".toList, isWordChar c = true := by decide
  have hline : p.readLine number (constants suffix h).render =
      Pool.settle number (p.feed "section".toList (splitOperands ("\t.rodata".toList ++ suffix))) :=
    Pool.readLine_directive hword hhead (by decide) hl p number
  have he : entersConstants? "section".toList (splitOperands ("\t.rodata".toList ++ suffix)) = some true := by
    rw [entersConstants?, if_pos (by decide), namesConstants_rodata]
  rw [hline, Pool.feed, he]
  rfl

theorem readLine_text : p.readLine number text.render = ({ p with inConstants := false }, none) :=
  rfl

theorem readLine_data : p.readLine number data.render = ({ p with inConstants := false }, none) :=
  rfl

theorem readLine_label {name : Text} (hn : name ≠ []) (hp : ∀ c ∈ name, c ∈ nameChars) :
    p.readLine number (label name hn hp).render = (p.define name, none) := by
  have hall : ∀ c ∈ nameChars, isSymbolChar c = true ∧ isBlank c = false := by decide +kernel
  have hsymbol : ∀ c ∈ name, isSymbolChar c = true := fun c hc => (hall c (hp c hc)).1
  have hcolon : ∀ c ∈ [':'].head?, isSymbolChar c = false := by decide
  have hhead : ∀ c ∈ (name ++ [':']).head?, isBlank c = false := by
    intro c hc
    rw [List.head?_append_of_ne_nil _ hn] at hc
    exact (hall c (hp c (List.mem_of_mem_head? hc))).2
  have htrim := Text.trimStart_append (x := []) (List.forall_mem_nil _) hhead
  rw [List.nil_append] at htrim
  have hlabel : Pool.label? (name ++ [':']) = some name := by
    rw [Pool.label?, htrim, leadingSymbol, Text.takeWhile_append hsymbol hcolon, Text.dropWhile_append hsymbol hcolon]
    cases name with
    | nil => exact absurd rfl hn
    | cons c name => rfl
  have hline : (label name hn hp).render = name ++ [':'] := rfl
  rw [hline, Pool.readLine, hlabel]

theorem readLine_bytes (item : DataItem) :
    p.readLine number (bytes item).render =
      if p.inConstants then
        let image := Image.ofDirective item.directive item.operands p.data.length
        Pool.settle number (p.add image, image.fault)
      else (p, none) :=
  Pool.readLine_directiveLine item.directive_mem item.isOperand_of_mem isTail_nil p number

end PoolItem

namespace PoolLayout

variable (l : PoolLayout) (number : Nat)

/-- An item that the machine can hold adds to the layout. -/
theorem readLine_render {item : PoolItem} (h : l.Fits item) : l.pool.readLine number item.render = ((l.add item).pool, none) := by
  cases item with
  | constants suffix oneLine => exact PoolItem.readLine_constants l.pool number oneLine
  | text => exact PoolItem.readLine_text l.pool number
  | data => exact PoolItem.readLine_data l.pool number
  | label name nonempty plain =>
      rw [PoolItem.readLine_label l.pool number nonempty plain, Pool.define, add]
      cases hc : l.inConstants with
      | false => simp [pool, hc]
      | true => simp [pool, hc, putLabel_lastOffsets]
  | bytes item =>
      rw [PoolItem.readLine_bytes, add]
      cases hc : l.inConstants with
      | false => simp [pool, hc]
      | true =>
          have himage : Image.ofDirective item.directive item.operands l.pool.data.length =
              { bytes := item.image l.data.length } := item.ofDirective_of_fits (h hc)
          rw [himage]
          simp [pool, hc, Pool.add, Pool.settle]

/-- An item that the machine cannot hold ends the run. -/
theorem exists_fault_of_not_fits {item : PoolItem} (h : ¬ l.Fits item) :
    ∃ p f, l.pool.readLine number item.render = (p, some f) := by
  cases item with
  | bytes item =>
      obtain ⟨hc, hfits⟩ := Classical.not_imp.mp h
      obtain ⟨f, hf, hv⟩ := item.ofDirective_of_not_fits hfits
      have himage : Image.ofDirective item.directive item.operands l.pool.data.length = { fault := some f } := hf
      have hp : l.pool.inConstants = true := hc
      refine ⟨l.pool.add { fault := some f }, f, ?_⟩
      rw [PoolItem.readLine_bytes, if_pos hp, himage]
      simp [Pool.settle, hv]
  | _ => exact absurd trivial h

theorem readLines_render {items : List PoolItem} (h : l.FitAll items) :
    l.pool.readLines number (items.map PoolItem.render) = ((items.foldl add l).pool, none) := by
  induction items generalizing l number with
  | nil => rfl
  | cons item items ih =>
      rw [List.map_cons, Pool.readLines, l.readLine_render number h.1]
      exact ih (l.add item) (number + 1) h.2

theorem exists_fault_of_not_fitAll {items : List PoolItem} (h : ¬ l.FitAll items) :
    ∃ p f, l.pool.readLines number (items.map PoolItem.render) = (p, some f) := by
  induction items generalizing l number with
  | nil => exact absurd trivial h
  | cons item items ih =>
      rw [List.map_cons, Pool.readLines]
      by_cases hitem : l.Fits item
      · rw [l.readLine_render number hitem]
        exact ih (l.add item) (number + 1) fun hitems => h ⟨hitem, hitems⟩
      · obtain ⟨p, f, hp⟩ := l.exists_fault_of_not_fits number hitem
        rw [hp]
        exact ⟨p, f, rfl⟩

end PoolLayout

/-! ## The whole listing -/

/-- A section with two numbers and zeros up to a multiple of eight. -/
def PoolItem.sample : List PoolItem :=
  [.constants ".cst8,\"aM\",@progbits,8".toList (by decide),
    .label ".LCPI0_0".toList (by decide) (by decide),
    .bytes (.values "short".toList 2 (by decide)
      { magnitude := .hexadecimal (15, true) [(0, false), (1, false)] } [{ negative := true, magnitude := .octal 1 [7] }]),
    .bytes (.align "balign".toList (by decide) { magnitude := .digit ⟨8, by decide⟩ })]

end AsmBridge
