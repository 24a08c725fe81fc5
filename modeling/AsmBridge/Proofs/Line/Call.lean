import AsmBridge.Proofs.Line.Lemmas.Operand
import AsmBridge.Proofs.Line.Lemmas.Spelling

/-!
# Calls in lines

A call keeps the name of its callee where that name holds none of the marks that respelling looks for. Where it holds
one, the callee is taken for an operand and becomes another symbol.
-/

namespace AsmBridge

/-- Whether a character can stand in the name of a callee, which may have a version or a table in it. -/
def isCalleeChar (c : Char) : Bool :=
  isSymbolChar c || c == '@'

/-- A line that calls a symbol. -/
structure CallLine where
  indent : Text
  gap : Text
  symbol : Text
  indent_blank : ∀ c ∈ indent, isBlank c
  gap_blank : ∀ c ∈ gap, isBlank c
  symbol_chars : ∀ c ∈ symbol, isCalleeChar c
  /-- The symbol is not taken for an alignment. -/
  unaligned : ¬ alignDirective <:+: symbol

namespace CallLine

variable (l : CallLine)

/-- The line in the words of the listing. -/
def render : Text :=
  l.indent ++ (callMnemonic ++ (l.gap ++ l.symbol))

/-- The line as a call of `callee`. -/
def calling (callee : Text) : Text :=
  l.indent ++ ("CALL ".toList ++ callee)

/-! ## Characters of the line -/

theorem not_isBlank_of_isCalleeChar {c : Char} (h : isCalleeChar c = true) : isBlank c = false := by
  rw [← Bool.not_eq_true]
  intro hb
  rw [isCalleeChar, (isSymbolChar_of_isBlank hb).1, Bool.false_or, beq_iff_eq] at h
  rw [h] at hb
  exact absurd hb (by decide)

theorem not_mem_render {c : Char} (hb : isBlank c = false) (hm : c ∉ callMnemonic) (hs : isCalleeChar c = false) :
    c ∉ l.render := by
  rw [render, List.mem_append, List.mem_append, List.mem_append]
  rintro (h | h | h | h)
  · rw [l.indent_blank c h] at hb
    cases hb
  · exact hm h
  · rw [l.gap_blank c h] at hb
    cases hb
  · rw [l.symbol_chars c h] at hs
    cases hs

theorem not_mem_calling {c : Char} (hb : isBlank c = false) (hm : c ∉ "CALL ".toList) {callee : Text} (hs : c ∉ callee) :
    c ∉ l.calling callee := by
  rw [calling, List.mem_append, List.mem_append]
  rintro (h | h | h)
  · rw [l.indent_blank c h] at hb
    cases hb
  · exact hm h
  · exact hs h

theorem trimStart_render : l.render.trimStart = callMnemonic ++ (l.gap ++ l.symbol) :=
  Text.trimStart_append l.indent_blank fun c hc => by
    cases hc
    decide

theorem trim_gap_symbol : (l.gap ++ l.symbol).trim = l.symbol := by
  have hs : ∀ c ∈ l.symbol, isBlank c = false := fun c hc => not_isBlank_of_isCalleeChar (l.symbol_chars c hc)
  have h := Text.trim_append l.gap_blank (y := []) (by simp) (t := l.symbol)
    ⟨fun c hc => hs c (List.mem_of_head? hc), fun c hc => hs c (List.mem_of_getLast? hc)⟩
  rwa [List.append_nil] at h

theorem indent_render : l.render.indent = l.indent :=
  Text.takeWhile_append l.indent_blank fun c hc => by
    cases hc
    decide

/-! ## The steps of conversion -/

theorem includes_alignDirective_render : l.render.includes alignDirective = false := by
  have hfront : '.' ∉ l.indent ++ (callMnemonic ++ l.gap) := by
    rw [List.mem_append, List.mem_append]
    rintro (h | h | h)
    · exact absurd (l.indent_blank _ h) (by decide)
    · exact absurd h (by decide)
    · exact absurd (l.gap_blank _ h) (by decide)
  have hrender : l.render = l.indent ++ (callMnemonic ++ l.gap) ++ l.symbol := by
    simp only [render, List.append_assoc]
  rw [Text.includes_eq_false_iff, hrender]
  exact fun h => l.unaligned (Text.infix_of_infix_append_left hfront h)

theorem startsBlock_render : startsBlock l.render = false :=
  startsBlock_append_eq_false l.indent_blank fun c hc => by
    cases hc
    decide

theorem respellCall_render : respellCall l.render = l.calling (calleeOf l.symbol) := by
  rw [respellCall, l.trimStart_render, Text.after?_append]
  simp only [l.indent_render, l.trim_gap_symbol, calling, List.append_assoc]

theorem isForeign_calling (callee : Text) : isForeign (l.calling callee) = false := by
  have hw : ∀ c ∈ "CALL".toList, isBlank c = false := by decide
  have hf := Text.head?_fields l.indent_blank hw (by decide) (t := ' ' :: callee) fun c hc => by
    cases hc
    decide
  unfold isForeign
  split
  · rfl
  · rename_i field fields hfields
    rw [show l.calling callee = l.indent ++ ("CALL".toList ++ ' ' :: callee) from rfl] at hfields
    rw [hfields] at hf
    cases hf
    rfl

theorem guardedLine_render : guardedLine l.render = l.calling (calleeOf l.symbol) := by
  have hlabel : respellBlockLabel l.render = l.render := by
    rw [respellBlockLabel, blockLabel?, l.startsBlock_render]
    rfl
  have hjump : respellJump l.render = l.render := by
    rw [respellJump, Jump.ofLine?_eq_none_of_head]
    rw [l.trimStart_render]
    exact fun h => absurd (Option.some.inj h) (by decide)
  rw [guardedLine, renamedLine, hlabel, hjump, l.respellCall_render, disableForeign, l.isForeign_calling]
  rfl

theorem holdsNoMark_calling_nil : HoldsNoMark (l.indent ++ "CALL ".toList) := by
  have hall : ∀ mark ∈ spellingMarks, ∀ c ∈ mark.head?, isBlank c = false ∧ c ∉ "CALL ".toList := by decide
  intro mark hm c hc h
  obtain ⟨hb, hcall⟩ := hall mark hm c hc
  rcases List.mem_append.mp h with h | h
  · rw [l.indent_blank c h] at hb
    cases hb
  · exact hcall h

theorem adjustOperands_calling (callee : Text) : adjustOperands (l.calling callee) = l.calling (adjustOperands callee) := by
  have h := l.holdsNoMark_calling_nil.adjustOperands_append callee
  rwa [List.append_assoc, List.append_assoc] at h

theorem calling_inj {callee other : Text} (h : l.calling callee = l.calling other) : callee = other :=
  List.append_cancel_left (List.append_cancel_left h)

theorem bracket_not_mem_calleeOf : '[' ∉ calleeOf l.symbol := by
  have hs : '[' ∉ l.symbol := fun h => absurd (l.symbol_chars _ h) (by decide)
  rw [calleeOf, runtimeRoutines, List.lookup_cons]
  split
  · change '[' ∉ "clib·_memcpy(SB)".toList
    decide
  · exact hs

/-- A call is converted to a call of what respelling makes of its callee. -/
theorem convertLine_render (table : Table) (layout : Layout) :
    convertLine table layout l.render = .ok (some (l.calling (adjustOperands (calleeOf l.symbol)))) := by
  have hhash : '#' ∉ l.render := l.not_mem_render (by decide) (by decide) (by decide)
  have hne : l.render ≠ [] := fun h => by
    have ht := l.trimStart_render
    rw [h] at ht
    cases ht
  have hcode : isCommentOnly l.render = false := by
    rw [isCommentOnly, stripComment_eq_self hhash, List.isEmpty_eq_false_iff.mpr hne]
    rfl
  have hbracket : '[' ∉ l.calling (adjustOperands (calleeOf l.symbol)) :=
    l.not_mem_calling (by decide) (by decide) (bracket_not_mem_adjustOperands l.bracket_not_mem_calleeOf)
  rw [convertLine, hcode, stripComment_eq_self hhash, l.includes_alignDirective_render, respell_eq_adjustOperands,
    l.guardedLine_render, l.adjustOperands_calling, resolveOperands_eq_self table layout hbracket]
  rfl

/-- The routine of the C runtime is called by its other name, and any other symbol by its own name exactly where it
holds none of the marks that respelling looks for. -/
theorem convertLine_calling_iff (table : Table) (layout : Layout) :
    (l.symbol = "_memcpy".toList →
      convertLine table layout l.render = .ok (some (l.calling "clib·_memcpy(SB)".toList))) ∧
    (l.symbol ≠ "_memcpy".toList →
      convertLine table layout l.render = .ok (some (l.calling (adjustOperands l.symbol))) ∧
      (convertLine table layout l.render = .ok (some (l.calling l.symbol)) ↔
        ∀ mark ∈ spellingMarks, ¬ mark <:+: l.symbol)) := by
  rw [l.convertLine_render]
  constructor
  · intro hs
    have hmarks : ∀ mark ∈ spellingMarks, ¬ mark <:+: "clib·_memcpy(SB)".toList := by decide
    have hcallee : calleeOf "_memcpy".toList = "clib·_memcpy(SB)".toList := rfl
    rw [hs, hcallee, adjustOperands_eq_self hmarks]
  · intro hs
    have hcallee : calleeOf l.symbol = l.symbol := by
      rw [calleeOf, runtimeRoutines, List.lookup_cons, beq_eq_false_iff_ne.mpr hs]
      rfl
    have hcomma : ',' ∉ l.symbol := fun h => absurd (l.symbol_chars _ h) (by decide)
    rw [hcallee, ← adjustOperands_eq_self_iff hcomma]
    exact ⟨rfl, fun h => l.calling_inj (Option.some.inj (Except.ok.inj h)), fun h => by rw [h]⟩

/-- A call through the table of procedures. -/
def sample : CallLine where
  indent := "\t".toList
  gap := "\t".toList
  symbol := "memset@PLT".toList
  indent_blank := isBlank_of_mem_tab
  gap_blank := isBlank_of_mem_tab
  symbol_chars := by decide
  unaligned := by decide

/-- A symbol without marks is called by its name. -/
theorem convertLine_calling_sample :
    sample.symbol ≠ "_memcpy".toList ∧ (∀ mark ∈ spellingMarks, ¬ mark <:+: sample.symbol) ∧
      convertLine {} (.caller {}) "\tcall\tmemset@PLT".toList = .ok (some "\tCALL memset@PLT".toList) := by
  have hs : sample.symbol ≠ "_memcpy".toList := by decide
  have hmarks : ∀ mark ∈ spellingMarks, ¬ mark <:+: sample.symbol := by decide
  exact ⟨hs, hmarks, ((convertLine_calling_iff sample {} (.caller {})).2 hs).2.mpr hmarks⟩

/-- The name of a callee loses what looks like a size marker. -/
theorem callee_changed :
    convertLine {} (.caller {}) "    call ptrace".toList = .ok (some "    CALL ace".toList) ∧
      "    CALL ace".toList ≠ "    CALL ptrace".toList := by
  exact ⟨by rfl, by decide⟩

end CallLine

end AsmBridge
