import AsmBridge.Frame.Sequence
import AsmBridge.Proofs.Declaration.File
import AsmBridge.Proofs.Entries

/-!
# Argument counts of declarations

The count of a function is that of the last declaration for it. A declaration of `_n` is for the function `n`, whose
header defines the symbol `_n`, and so is a declaration of `n`.
-/

namespace AsmBridge

/-! ## Counts put over counts -/

namespace ArgumentCounts

theorem lookup_put (name other : Text) (count : Int) (counts : ArgumentCounts) :
    (put name count counts).lookup other = if other = name then some count else counts.lookup other := by
  have hputs : PutsEntry name count (put name count) := { nil := rfl, cons := fun _ _ => rfl }
  exact hputs.lookup_eq other counts

/-- The last count for a name is the one that remains. -/
theorem lookup_override (counts others : ArgumentCounts) (name : Text) :
    (override counts others).lookup name =
      ((others.filter fun entry => entry.1 == name).getLast?.map (·.2)).or (counts.lookup name) := by
  induction others using List.reverseRecOn with
  | nil => rfl
  | append_singleton others entry ih =>
      have hstep : override counts (others ++ [entry]) = put entry.1 entry.2 (override counts others) := by
        rw [override, List.foldl_append]
        rfl
      rw [hstep, lookup_put, ih, List.filter_append, List.getLast?_append, List.filter_singleton]
      cases hb : entry.1 == name with
      | true => rw [if_pos (eq_of_beq hb).symm]; rfl
      | false => rw [if_neg (ne_of_beq_false hb).symm]; rfl

theorem lookup_ofDeclarations (source name : Text) :
    (ofDeclarations source).lookup name = ((Declaration.allFrom true source).filter fun d => d.target == name).getLast?.map
      fun d => (countParameters d.params : Int) := by
  rw [ofDeclarations, lookup_override, List.filter_map, List.getLast?_map, Option.map_map]
  exact Option.or_none

end ArgumentCounts

/-! ## Parameters -/

/-- Where a reader of a parameter list stands: in the quotes of a literal or outside, and in how many brackets. -/
structure ParameterScan where
  quote? : Option Char := none
  isEscaped : Bool := false
  depth : Nat := 0

namespace ParameterScan

def step (s : ParameterScan) (c : Char) : ParameterScan :=
  match s.quote? with
  | some quote =>
    if s.isEscaped then { s with isEscaped := false }
    else if c == '\\' && quote != '\x60' then { s with isEscaped := true }
    else if c == quote then { s with quote? := none }
    else s
  | none =>
    if ['\'', '\x22', '\x60'].contains c then { s with quote? := some c }
    else if ['(', '[', '\x7b'].contains c then { s with depth := s.depth + 1 }
    else if [')', ']', '\x7d'].contains c then { s with depth := s.depth - 1 }
    else s

/-- Whether a comma stands between two parameters. -/
def separates (s : ParameterScan) : Bool :=
  s.quote?.isNone && s.depth == 0

/-- The text between the commas that separate parameters. -/
def parts (s : ParameterScan) : Text → List Text
  | [] => [[]]
  | c :: t => if c == ',' && s.separates then [] :: (s.step c).parts t else ((s.step c).parts t).modifyHead (c :: ·)

/-- Whether all commas of a text separate parameters. No comma stands in a type, as in a map of pairs or in a tag. -/
def CommasSeparate (s : ParameterScan) : Text → Prop
  | [] => True
  | c :: t => (c = ',' → s.separates = true) ∧ (s.step c).CommasSeparate t

theorem parts_eq_splitOn {s : ParameterScan} {t : Text} (h : s.CommasSeparate t) : s.parts t = t.splitOn ',' := by
  induction t generalizing s with
  | nil => rfl
  | cons c t ih =>
      rw [parts, List.splitOn_cons_eq_if_modifyHead, ih h.2]
      by_cases hc : c = ','
      · rw [if_pos (by rw [hc, h.1 hc]; rfl), if_pos (by rw [hc]; rfl)]
      · rw [if_neg (by simp [hc]), if_neg (by simp [hc])]

end ParameterScan

/-- The number of parameters in a parameter list of Go. -/
def parameterCount (params : Text) : Nat :=
  ((({} : ParameterScan).parts params).filter fun param => !(Text.trim param).isEmpty).length

theorem countParameters_eq_parameterCount {params : Text} (h : ({} : ParameterScan).CommasSeparate params) :
    countParameters params = parameterCount params := by
  rw [countParameters, parameterCount, ParameterScan.parts_eq_splitOn h]

/-! ## The declaration of a function -/

/-- Whether a place declares the function `n` without an underscore in front of the name. -/
def DeclarationPlace.isPlain (n : Text) (p : DeclarationPlace) : Bool :=
  p.head.name == n && n.head? != some '_'

/-- The place whose parameters count for `n`: the last one that declares `n` itself, or else the place of `_n`. -/
def DeclarationPlace.countedFor (n : Text) (place : DeclarationPlace) (behind : List DeclarationPlace) : DeclarationPlace :=
  (behind.filter (isPlain n)).getLast?.getD place

theorem DeclarationPlace.target_beq (p : DeclarationPlace) (n : Text) :
    (p.declaration.target == n) = (p.head.name == '_' :: n || p.isPlain n) := by
  rw [Bool.eq_iff_iff]
  simp only [isPlain, Declaration.target, declaration, Bool.or_eq_true, Bool.and_eq_true, beq_iff_eq, bne_iff_ne]
  split
  · rename_i name hname
    rw [hname]
    constructor
    · rintro rfl
      exact .inl rfl
    · rintro (h | ⟨rfl, h⟩)
      · exact (List.cons.inj h).2
      · exact absurd rfl h
  · rename_i name hname
    constructor
    · rintro rfl
      refine .inr ⟨rfl, fun h => ?_⟩
      obtain ⟨rest, hr⟩ := List.head?_eq_some_iff.mp h
      exact hname rest hr
    · rintro (h | ⟨h, -⟩)
      · exact absurd h (hname n)
      · exact h

section

variable {file : DeclarationFile} {before after : List DeclarationPlace} {d : DeclarationPlace} {n : Text}

theorem ArgumentCounts.lookup_render (hplaces : file.places = before ++ d :: after) (hname : d.head.name = '_' :: n)
    (hone : ∀ p ∈ after, p.head.name ≠ '_' :: n) :
    (ofDeclarations file.render).lookup n = some (countParameters (d.countedFor n after).params : Int) := by
  have hbehind : after.filter (fun p => p.declaration.target == n) = after.filter (DeclarationPlace.isPlain n) := by
    refine List.filter_congr fun p hp => ?_
    rw [p.target_beq, beq_false_of_ne (hone p hp), Bool.false_or]
  have hd : (d.declaration.target == n) = true := by
    rw [d.target_beq, hname, beq_self_eq_true, Bool.true_or]
  have hcons : (d :: after).filter (fun p => p.declaration.target == n) = d :: after.filter (DeclarationPlace.isPlain n) := by
    rw [List.filter_cons, if_pos hd, hbehind]
  rw [lookup_ofDeclarations, file.allFrom_render, hplaces, List.filter_map, List.getLast?_map, Option.map_map, Function.comp_def,
    Function.comp_def, List.filter_append, hcons, List.getLast?_append, List.getLast?_cons, Option.some_or]
  rfl

/-- The count of `n` is the number of parameters of the declaration of `_n`, whose symbol the header of `n` defines, exactly
when the place that counts has as many parts between commas. -/
theorem ArgumentCounts.lookup_ofDeclarations_iff (hplaces : file.places = before ++ d :: after) (hname : d.head.name = '_' :: n)
    (hone : ∀ p ∈ after, p.head.name ≠ '_' :: n) :
    (ofDeclarations file.render).lookup n = some (countParameters (d.countedFor n after).params : Int) ∧
      ((ofDeclarations file.render).lookup n = some (parameterCount d.params : Int) ↔
        countParameters (d.countedFor n after).params = parameterCount d.params) ∧
      ((∀ p ∈ after, p.isPlain n = false) → ({} : ParameterScan).CommasSeparate d.params →
        (ofDeclarations file.render).lookup n = some (parameterCount d.params : Int)) ∧
      ∀ frame count table, (prologueLines frame n count table).head? =
        some ("TEXT ·".toList ++ d.head.name ++ "(SB), 7, $0".toList) := by
  have hlookup := lookup_render hplaces hname hone
  refine ⟨hlookup, ?_, fun hplain hcommas => ?_, fun frame count table => ?_⟩
  · rw [hlookup, Option.some.injEq, Int.natCast_inj]
  · have hcounted : d.countedFor n after = d := by
      rw [DeclarationPlace.countedFor, List.filter_eq_nil_iff.mpr fun p hp => Bool.eq_false_iff.mp (hplain p hp)]
      rfl
    rw [hlookup, hcounted, countParameters_eq_parameterCount hcommas]
  · rw [hname]
    rfl

end

/-! ## A function and its wrapper -/

theorem not_opensDeclaration_nil : ¬ OpensDeclaration [] := by
  rintro ⟨head, rest, h⟩
  cases h

theorem isQuiet_nil (lineStart : Bool) : IsQuiet lineStart [] :=
  ⟨fun _ => not_opensDeclaration_nil, fun x y h => by cases x <;> cases h⟩

theorem isQuiet_newline : IsQuiet false ['\n'] := by
  refine ⟨(nomatch ·), fun x y h => ?_⟩
  cases x with
  | nil =>
      cases h
      exact not_opensDeclaration_nil
  | cons c x => cases x <;> cases h

/-- A line `func name(params)`. -/
def plainPlace (name params : Text) (hne : name ≠ []) (hname : ∀ c ∈ name, isWordChar c = true) (hparams : ')' ∉ params)
    (before : Text) : DeclarationPlace where
  before := before
  indent := []
  head := {
    gap := [' ']
    name := name
    space := []
    gap_ne_nil := by decide
    isBlank_gap := by decide
    name_ne_nil := hne
    isWordChar_name := hname
    isBlank_space := isBlank_of_mem_nil }
  params := params
  isBlank_indent := isBlank_of_mem_nil
  closed := hparams

/-- A line `func _f(a int)`. -/
def stubPlace : Text → DeclarationPlace :=
  plainPlace "_f".toList "a int".toList (by decide) (by decide) (by decide)

/-- A line `func f(a, b int)`. -/
def wrapperPlace : Text → DeclarationPlace :=
  plainPlace "f".toList "a, b int".toList (by decide) (by decide) (by decide)

/-- A file of two lines. -/
def twoLines (first second : Text → DeclarationPlace) (h : (first []).before = []) (h' : (second ['\n']).before = ['\n']) :
    DeclarationFile where
  places := [first [], second ['\n']]
  ending := ['\n']
  wellPlaced := by
    rw [WellPlaced, WellPlaced, WellPlaced, h, h']
    exact ⟨rfl, isQuiet_nil true, rfl, isQuiet_newline, isQuiet_newline⟩

/-- A wrapper in front of the declaration does not count. -/
theorem ArgumentCounts.lookup_ofDeclarations_sample :
    (ofDeclarations "func f(a, b int)\nfunc _f(a int)\n".toList).lookup "f".toList = some 1 := by
  have hplaces : (twoLines wrapperPlace stubPlace rfl rfl).places = [wrapperPlace []] ++ stubPlace ['\n'] :: [] := rfl
  have hname : (stubPlace ['\n']).head.name = '_' :: "f".toList := rfl
  exact (lookup_ofDeclarations_iff hplaces hname (by simp)).1

/-- A wrapper behind it does. -/
theorem ArgumentCounts.wrapper_counted :
    parameterCount "a int".toList = 1 ∧ (ofDeclarations "func _f(a int)\nfunc f(a, b int)\n".toList).lookup "f".toList = some 2 := by
  have hplaces : (twoLines stubPlace wrapperPlace rfl rfl).places = [] ++ stubPlace [] :: [wrapperPlace ['\n']] := rfl
  have hname : (stubPlace []).head.name = '_' :: "f".toList := rfl
  exact ⟨by decide, lookup_render hplaces hname (by decide)⟩

end AsmBridge
