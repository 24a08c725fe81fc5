import AsmBridge.Proofs.Frame.Lemmas.Memory
import AsmBridge.Proofs.Frame.Lemmas.Reading

/-!
# What the entry sequence does

The parts of the entry sequence one after the other, and the state that they leave: the stack pointer, the
base pointer, the registers of the first arguments, and the memory.
-/

namespace AsmBridge

/-! ## Addresses of a frame -/

namespace Frame

/-- The stack pointer `s` rounded, with the frame below it. -/
def rounded (f : Frame) (s : Quad) : Quad :=
  (s &&& BitVec.ofInt 64 f.mask) - BitVec.ofInt 64 f.size

/-- The stack pointer below the frame of a function that was entered with the stack pointer `s`. -/
def bottom (f : Frame) (s : Quad) : Quad :=
  if f.realigned then f.rounded s else s - BitVec.ofInt 64 f.size

/-- The numbers of the arguments that are copied, in the order of the copies. -/
def copied (count : Nat) : List Nat :=
  (List.range' registerCount (count - registerCount)).reverse

/-- Where the argument number `index` is copied to, below the frame that ends at `base`. -/
def slot (base : Quad) (count index : Nat) : Quad :=
  base + BitVec.ofInt 64 (-8 - ((count - index : Nat) : Int) * slotSize)

/-- The memory with the stack pointer `s` saved. -/
def savedMemory (f : Frame) (s : Quad) (m : Memory) : Memory :=
  if f.realigned then m.store (f.rounded s - 8) s else m

/-- The memory that the entry sequence leaves. -/
def enteredMemory (f : Frame) (count : Nat) (table : Table) (s : Quad) (m : Memory) : Memory :=
  if f.realigned && table.isPresent then
    (f.savedMemory s m).copy (argumentAddress s) (slot (f.rounded s) count) (copied count)
  else f.savedMemory s m

end Frame

/-! ## Passing through lines -/

namespace Machine

variable {m n k : Machine}

/-- Control passes through the lines, and the machine becomes `n`. -/
def Passes (m : Machine) (items : List Item) (n : Machine) : Prop :=
  m.follow (items.map Item.statement) = .through n

theorem Passes.nil (m : Machine) : m.Passes [] m := rfl

theorem Passes.append {first second : List Item} (h : m.Passes first n) (h' : n.Passes second k) :
    m.Passes (first ++ second) k := by
  rw [Passes, List.map_append, follow_append h]
  exact h'

/-- Only the registers `changed` and the memory may differ. -/
structure Keeps (changed : List Register) (m n : Machine) : Prop where
  register : ∀ r ∉ changed, n.register r = m.register r
  entry : n.entry = m.entry
  symbol : n.symbol = m.symbol

theorem Keeps.refl (changed : List Register) (m : Machine) : Keeps changed m m :=
  ⟨fun _ _ => rfl, rfl, rfl⟩

theorem Keeps.trans {changed changed' : List Register} (h : Keeps changed m n) (h' : Keeps changed' n k) :
    Keeps (changed ++ changed') m k where
  register r hr := by
    simp only [List.mem_append, not_or] at hr
    rw [h'.register r hr.2, h.register r hr.1]
  entry := h'.entry.trans h.entry
  symbol := h'.symbol.trans h.symbol

theorem Keeps.mono {changed changed' : List Register} (h : Keeps changed m n) (hs : changed ⊆ changed') :
    Keeps changed' m n :=
  ⟨fun r hr => h.register r fun hc => hr (hs hc), h.entry, h.symbol⟩

theorem Keeps.set (m : Machine) (r : Register) (value : Quad) : Keeps [r] m (m.set r value) where
  register q hq := register_set_of_ne m r q value (by simpa using hq)
  entry := rfl
  symbol := rfl

theorem Keeps.put {changed : List Register} (h : Keeps changed m n) (a value : Quad) :
    Keeps changed m (n.put a value) :=
  ⟨h.register, h.entry, h.symbol⟩

end Machine

/-! ## The parts -/

theorem add_ofInt_neg_eight (a : Quad) : a + BitVec.ofInt 64 (-8) = a - 8 := by
  rw [show BitVec.ofInt 64 (-8) = -8 by decide, BitVec.sub_eq_add_neg]

namespace Frame

open Machine

variable (f : Frame) (count : Nat) (table : Table) (m : Machine)

theorem passes_saveStackPointer :
    ∃ n, m.Passes (if f.realigned then f.saveStackPointer.map .code else []) n ∧ Keeps [.bp] m n ∧
      n.register .bp = (if f.realigned then f.rounded (m.register .sp) else m.register .bp) ∧
      n.memory = f.savedMemory (m.register .sp) m.memory := by
  cases hr : f.realigned with
  | false =>
      simp only [Bool.false_eq_true, ↓reduceIte, savedMemory, hr]
      exact ⟨m, .nil m, .refl _ m, rfl, rfl⟩
  | true =>
      simp only [↓reduceIte, savedMemory, hr]
      refine ⟨(m.set .bp (f.rounded (m.register .sp))).put (f.rounded (m.register .sp) - 8) (m.register .sp),
        ?_, (Keeps.set m .bp _).put _ _, by rw [register_put, register_set], rfl⟩
      have hs : ∀ v, (m.set .bp v).register .sp = m.register .sp := fun v =>
        register_set_of_ne m .bp .sp v (by decide)
      simp only [Passes, saveStackPointer, List.map_cons, List.map_nil, Item.statement, Instruction.statement,
        follow, step, assign, value, fetch, locate, Operation.apply, register_set, set_set, hs,
        add_ofInt_neg_eight]
      rfl

/-- The copies run through the scratch register and leave what `Memory.copy` leaves. -/
theorem passes_copies (indices : List Nat) :
    ∃ n, m.Passes ((indices.flatMap fun index => [.loadArgument index .scratch,
        .store .scratch (-8 - ((count - index : Nat) : Int) * slotSize) .bp]).map .code) n ∧
      Keeps [.scratch] m n ∧
      n.memory = m.memory.copy (argumentAddress m.entry) (slot (m.register .bp) count) indices := by
  induction indices generalizing m with
  | nil => exact ⟨m, .nil m, .refl _ m, rfl⟩
  | cons index indices ih =>
      let word := m.memory.quad (argumentAddress m.entry index)
      let next := (m.set .scratch word).put (slot (m.register .bp) count index) word
      -- The places of the copies are counted from the base pointer, which no copy changes.
      have hb : next.register .bp = m.register .bp := register_set_of_ne m .scratch .bp word (by decide)
      obtain ⟨n, hn, hk, hm⟩ := ih next
      refine ⟨n, ?_, ?_, ?_⟩
      · rw [List.flatMap_cons, List.map_append]
        refine Passes.append ?_ hn
        simp only [Passes, List.map_cons, List.map_nil, Item.statement, Instruction.statement, follow, step,
          assign, value, fetch, locate, register_set]
        rw [register_set_of_ne m .scratch .bp _ (by decide)]
        rfl
      · have hs : Keeps [.scratch] m next := (Keeps.set m .scratch word).put _ word
        exact (hs.trans hk).mono (List.append_subset.mpr ⟨List.Subset.refl _, List.Subset.refl _⟩)
      · rw [hm, hb]
        rfl

theorem passes_copyArguments :
    ∃ n, m.Passes (if f.realigned && table.isPresent then (copyArguments count).map .code else []) n ∧
      Keeps [.scratch] m n ∧
      n.memory = if f.realigned && table.isPresent then
        m.memory.copy (argumentAddress m.entry) (slot (m.register .bp) count) (copied count) else m.memory := by
  split
  · exact passes_copies count m (copied count)
  · exact ⟨m, .nil m, .refl _ m, rfl⟩

/-- Loads into different registers leave every one of them with its own argument. -/
theorem passes_loads {loads : List (Register × Nat)} (hd : (loads.map Prod.fst).Nodup) :
    ∃ n, m.Passes ((loads.map fun (register, index) => .loadArgument index register).map .code) n ∧
      Keeps (loads.map Prod.fst) m n ∧ n.memory = m.memory ∧
      ∀ l ∈ loads, n.register l.1 = m.memory.quad (argumentAddress m.entry l.2) := by
  induction loads generalizing m with
  | nil => exact ⟨m, .nil m, .refl _ m, rfl, nofun⟩
  | cons l loads ih =>
      obtain ⟨hl, hd⟩ := List.nodup_cons.mp hd
      let value := m.memory.quad (argumentAddress m.entry l.2)
      obtain ⟨n, hn, hk, hm, hv⟩ := ih (m.set l.1 value) hd
      have hs : m.Passes [.code (.loadArgument l.2 l.1)] (m.set l.1 value) := rfl
      refine ⟨n, hs.append hn, (Keeps.set m l.1 value).trans hk, hm, ?_⟩
      intro q hq
      rcases List.mem_cons.mp hq with rfl | hq
      · -- The loads that follow have other targets.
        rw [hk.register _ hl, register_set]
      · exact hv q hq

theorem passes_loadArguments :
    ∃ n, m.Passes ((loadArguments count).map .code) n ∧ Keeps Register.arguments m n ∧ n.memory = m.memory ∧
      ∀ k, (h : k < Register.arguments.length) → k < count →
        n.register Register.arguments[k] = m.memory.quad (argumentAddress m.entry k) := by
  have hf : (Register.arguments.take count).zipIdx.map Prod.fst = Register.arguments.take count :=
    List.zipIdx_map_fst 0 _
  have hd : (Register.arguments.take count).Nodup :=
    List.Sublist.nodup (List.take_sublist count _) (by decide)
  obtain ⟨n, hn, hk, hm, hv⟩ := passes_loads m (hf ▸ hd)
  refine ⟨n, hn, hk.mono ?_, hm, ?_⟩
  · rw [hf]
    exact List.take_subset count _
  · intro k hk hc
    refine hv (Register.arguments[k], k) (List.mk_mem_zipIdx_iff_getElem?.mpr ?_)
    rw [List.getElem?_take_of_lt hc, List.getElem?_eq_getElem hk]

theorem passes_anchor :
    ∃ n, m.Passes (f.anchor table) n ∧ Keeps [.bp] m n ∧ n.memory = m.memory ∧
      n.register .bp = if table.isPresent then m.symbol table.name
        else if f.realigned then m.register .sp else m.register .bp := by
  unfold anchor
  split
  · exact ⟨m.set .bp (m.symbol table.name), rfl, .set m .bp _, rfl, register_set m .bp _⟩
  · split
    · exact ⟨m.set .bp (m.register .sp), rfl, .set m .bp _, rfl, register_set m .bp _⟩
    · exact ⟨m, .nil m, .refl _ m, rfl, rfl⟩

theorem passes_reserve :
    ∃ n, m.Passes (f.reserve.map .code) n ∧ Keeps [.sp] m n ∧ n.memory = m.memory ∧
      n.register .sp = f.bottom (m.register .sp) := by
  unfold reserve bottom
  split
  · refine ⟨m.set .sp (f.rounded (m.register .sp)), ?_, .set m .sp _, rfl, register_set m .sp _⟩
    simp only [Passes, List.map_cons, List.map_nil, Item.statement, Instruction.statement, follow, step,
      assign, value, fetch, Operation.apply, register_set, set_set]
    rfl
  · split
    · exact ⟨m.set .sp _, rfl, .set m .sp _, rfl, register_set m .sp _⟩
    · rename_i h
      rw [Decidable.not_not.mp h]
      exact ⟨m, .nil m, .refl _ m, rfl, (BitVec.sub_zero _).symm⟩

/-! ## The whole entry sequence -/

/-- The state `n` is the one that the entry sequence leaves when it is called in the state `m`. -/
structure Entered (f : Frame) (count : Nat) (table : Table) (m n : Machine) : Prop where
  stackPointer : n.register .sp = f.bottom (m.register .sp)
  basePointer : n.register .bp = if table.isPresent then m.symbol table.name
    else if f.realigned then m.register .sp else m.register .bp
  memory : n.memory = f.enteredMemory count table (m.register .sp) m.memory
  loaded : ∀ k, (h : k < Register.arguments.length) → k < count →
    n.register Register.arguments[k] = n.memory.quad (argumentAddress (m.register .sp) k)

theorem call_prologueLines (name : Text) :
    ∃ n, m.call (prologueLines f name count table) = some (.through n) ∧ f.Entered count table m n := by
  let m₀ : Machine := { m with entry := m.register .sp }
  obtain ⟨m₁, h₁, k₁, b₁, v₁⟩ := passes_saveStackPointer f m₀
  obtain ⟨m₂, h₂, k₂, v₂⟩ := passes_copyArguments f count table m₁
  obtain ⟨m₃, h₃, k₃, v₃, a₃⟩ := passes_loadArguments count m₂
  obtain ⟨m₄, h₄, k₄, v₄, b₄⟩ := passes_anchor f table m₃
  obtain ⟨m₅, h₅, k₅, v₅, s₅⟩ := passes_reserve f m₄
  have hp : m₀.Passes (f.enter name count table) m₅ := by
    have h₀ : m₀.Passes [.header name, .blank] m₀ := rfl
    exact ((((h₀.append h₁).append h₂).append h₃).append h₄).append h₅
  have hc := k₁.trans (k₂.trans k₃)
  refine ⟨m₅, ?_, ?_⟩
  · rw [call, prologueLines, run_render]
    exact congrArg some hp
  · have hs : m₃.register .sp = m.register .sp := hc.register .sp (by decide)
    have he : m₂.entry = m.register .sp := (k₁.trans k₂).entry
    have hb : m₃.register .bp = m₁.register .bp :=
      (k₂.trans k₃).register .bp (by decide)
    have hm : m₅.memory = m₂.memory := v₅.trans (v₄.trans v₃)
    constructor
    · rw [s₅, k₄.register .sp (by decide), hs]
    · rw [k₅.register .bp (by decide), b₄, hc.symbol, hs, hb, b₁]
      split
      · rfl
      · split
        · rfl
        · rfl
    · rw [hm, v₂, v₁, b₁, k₁.entry, enteredMemory]
      cases hr : f.realigned with
      | false => rfl
      | true => rfl
    · intro k hk hn
      have hr : Register.arguments[k] ∉ [.sp] ∧ Register.arguments[k] ∉ [.bp] :=
        (by decide : ∀ r ∈ Register.arguments, r ∉ [.sp] ∧ r ∉ [.bp]) _ (List.getElem_mem hk)
      rw [k₅.register _ hr.1, k₄.register _ hr.2, a₃ k hk hn, hm, he]

/-! ## The exit sequence -/

theorem passes_release :
    ∃ n, m.Passes (f.release.map .code) n ∧ n.register .sp =
      if f.realigned then m.memory.quad (m.register .sp - 8) else m.register .sp + BitVec.ofInt 64 f.size := by
  unfold release
  split
  · refine ⟨m.set .sp (m.memory.quad (m.register .sp - 8)), ?_, register_set m .sp _⟩
    simp only [Passes, List.map_cons, List.map_nil, Item.statement, Instruction.statement, follow, step,
      assign, value, fetch, locate, add_ofInt_neg_eight]
  · split
    · exact ⟨m.set .sp _, rfl, register_set m .sp _⟩
    · rename_i h
      rw [Decidable.not_not.mp h]
      exact ⟨m, .nil m, (BitVec.add_zero _).symm⟩

theorem follow_finish : m.follow ((f.finish.map .code).map Item.statement) = .returned m := by
  unfold finish
  split <;> rfl

/-- The exit sequence returns with the saved stack pointer, or else with the frame given back. -/
theorem run_epilogueLines :
    ∃ n, m.run (epilogueLines f) = some (.returned n) ∧ n.register .sp =
      if f.realigned then m.memory.quad (m.register .sp - 8) else m.register .sp + BitVec.ofInt 64 f.size := by
  obtain ⟨n, hn, hs⟩ := passes_release f m
  refine ⟨n, ?_, hs⟩
  rw [epilogueLines, leave, run_render, List.map_append, List.map_append, follow_append hn, follow_finish]

end Frame

end AsmBridge
