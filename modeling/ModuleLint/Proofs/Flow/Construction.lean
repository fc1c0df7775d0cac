import ModuleLint.Flow.Lowering
import ModuleLint.Proofs.Flow.Script

/-!
# How a flow graph grows

Lowering only ever does four things to a graph under construction: it adds an event to the current
block, defines a variable there, draws an edge, or opens a new block. This module says once what
each of them does to the blocks (`events_addEdge`, `succs_addEdge`, …), and packs them into one
relation, `Builder.Steps`. From the steps follows what they leave alone (`Steps.events_eq`,
`Steps.succs_eq`) and what holds of every graph that they lead to (`Builder.WellFormed`).
-/

set_option autoImplicit false

namespace ModuleLint

/-! ## What expressions read -/

mutual

/-- Lowering reads for an expression just the variables that are mentioned in it, in the order of the text. -/
theorem Expr.effects_eq_map_reads : ∀ e : Expr, e.effects = e.reads.map .read
  | .hole _ => rfl
  | .reference _ => rfl
  | .binary _ _ left right => by
    have hleft := left.effects_eq_map_reads
    have hright := right.effects_eq_map_reads
    unfold Expr.effects at hleft hright ⊢
    rw [Expr.reads, List.map_append, ← hleft, ← hright, ← List.filterMap_append, ← nodesOfAll_append, Expr.outline,
      nodesOfAll, nodesOfAll, List.append_nil, Outline.nodes]
    rfl
  | .literal _ => rfl
  | .call _ _ arguments => by
    have harguments := effectsOfExprs_eq_map_reads arguments
    unfold effectsOfExprs at harguments
    rw [Expr.effects, Expr.reads, ← harguments, Expr.outline, nodesOfAll, nodesOfAll, List.append_nil, Outline.nodes]
    rfl
  | .generic _ => rfl

/-- Several expressions are read one after another. -/
theorem effectsOfExprs_eq_map_reads : ∀ es : List Expr, effectsOfExprs es = (readsOfExprs es).map .read
  | [] => rfl
  | e :: rest => by
    have hfirst := e.effects_eq_map_reads
    have hrest := effectsOfExprs_eq_map_reads rest
    unfold Expr.effects at hfirst
    unfold effectsOfExprs at hrest ⊢
    rw [readsOfExprs, List.map_append, ← hfirst, ← hrest, ← List.filterMap_append, ← nodesOfAll_append, outlineOfExprs]

end

namespace Flow

namespace Graph

variable {α : Type}

/-- One of the lists of a block, empty for a block that does not exist. -/
def listOf (g : Graph) (f : Block → List α) (i : Nat) : List α := (g.blocks[i]?.map f).getD []

/-- The events of a block are one of its lists. -/
theorem events_eq_listOf (g : Graph) (i : Nat) : g.events i = g.listOf Block.events i := by
  unfold events listOf
  cases g.blocks[i]? <;> rfl

/-- The successors of a block are one of its lists. -/
theorem succs_eq_listOf (g : Graph) (i : Nat) : g.succs i = g.listOf Block.succs i := by
  unfold succs listOf
  cases g.blocks[i]? <;> rfl

/-- The predecessors of a block are one of its lists. -/
theorem preds_eq_listOf (g : Graph) (i : Nat) : g.preds i = g.listOf Block.preds i := by
  unfold preds listOf
  cases g.blocks[i]? <;> rfl

end Graph

namespace Builder

/-- The number of blocks so far. -/
def size (b : Builder) : Nat := b.graph.blocks.length

section Lists

variable {α : Type} (f : Block → List α)

/-- A change of one block that does not concern a list leaves it alone everywhere. -/
theorem listOf_modifyBlock_of_eq (b : Builder) (i k : Nat) (change : Block → Block)
    (h : ∀ blk, f (change blk) = f blk) :
    (b.modifyBlock i change).graph.listOf f k = b.graph.listOf f k := by
  unfold Graph.listOf modifyBlock
  rw [List.getElem?_modify]
  cases b.graph.blocks[k]? with
  | none => rfl
  | some blk => by_cases hik : i = k <;> simp [hik, h]

/-- A change of one block that appends to a list does so for that block only. -/
theorem listOf_modifyBlock_of_append (b : Builder) (i k : Nat) (change : Block → Block) (x : α)
    (h : ∀ blk, f (change blk) = f blk ++ [x]) (hi : i < b.size) :
    (b.modifyBlock i change).graph.listOf f k
      = if k = i then b.graph.listOf f k ++ [x] else b.graph.listOf f k := by
  unfold Graph.listOf modifyBlock
  rw [List.getElem?_modify]
  by_cases hik : k = i
  · subst hik
    have hlt : k < b.graph.blocks.length := hi
    simp [List.getElem?_eq_getElem hlt, h]
  · rw [if_neg hik]
    cases b.graph.blocks[k]? with
    | none => rfl
    | some blk => simp [Ne.symm hik]

/-- The lists of a new block are empty, so opening it changes none. -/
theorem listOf_startBlock (b : Builder) (kind : BlockKind) (k : Nat)
    (h : f { kind := kind } = []) :
    (b.startBlock kind).graph.listOf f k = b.graph.listOf f k := by
  unfold Graph.listOf startBlock
  rw [List.getElem?_append]
  split
  · rfl
  · rename_i hk
    rw [List.getElem?_eq_none (by omega : b.graph.blocks.length ≤ k)]
    cases hj : k - b.graph.blocks.length with
    | zero => simp [h]
    | succ j => simp

end Lists

/-! ## Opening a block -/

/-- A new block is one more. -/
@[simp] theorem size_startBlock (b : Builder) (kind : BlockKind) :
    (b.startBlock kind).size = b.size + 1 := by
  simp [size, startBlock]

/-- The new block becomes the current one. -/
@[simp] theorem current_startBlock (b : Builder) (kind : BlockKind) :
    (b.startBlock kind).current = b.size := rfl

/-- A new block defines nothing. -/
@[simp] theorem definitions_startBlock (b : Builder) (kind : BlockKind) :
    (b.startBlock kind).graph.definitions = b.graph.definitions := rfl

/-- A new block has no events, and the others keep theirs. -/
@[simp] theorem events_startBlock (b : Builder) (kind : BlockKind) (i : Nat) :
    (b.startBlock kind).graph.events i = b.graph.events i := by
  simp only [Graph.events_eq_listOf, listOf_startBlock]

/-- A new block has no successors yet. -/
@[simp] theorem succs_startBlock (b : Builder) (kind : BlockKind) (i : Nat) :
    (b.startBlock kind).graph.succs i = b.graph.succs i := by
  simp only [Graph.succs_eq_listOf, listOf_startBlock]

/-- A new block has no predecessors yet. -/
@[simp] theorem preds_startBlock (b : Builder) (kind : BlockKind) (i : Nat) :
    (b.startBlock kind).graph.preds i = b.graph.preds i := by
  simp only [Graph.preds_eq_listOf, listOf_startBlock]

/-! ## Drawing an edge -/

/-- An edge adds no block. -/
@[simp] theorem size_addEdge (b : Builder) (source target : Nat) :
    (b.addEdge source target).size = b.size := by
  simp [size, addEdge, modifyBlock]

/-- An edge does not move the current block. -/
@[simp] theorem current_addEdge (b : Builder) (source target : Nat) :
    (b.addEdge source target).current = b.current := rfl

/-- An edge defines nothing. -/
@[simp] theorem definitions_addEdge (b : Builder) (source target : Nat) :
    (b.addEdge source target).graph.definitions = b.graph.definitions := rfl

/-- An edge is no event. -/
@[simp] theorem events_addEdge (b : Builder) (source target i : Nat) :
    (b.addEdge source target).graph.events i = b.graph.events i := by
  simp only [Graph.events_eq_listOf, addEdge]
  rw [listOf_modifyBlock_of_eq, listOf_modifyBlock_of_eq]
  · exact fun _ => rfl
  · exact fun _ => rfl

/-- The source of an edge gets the target as its last successor. -/
theorem succs_addEdge (b : Builder) (source target i : Nat) (hs : source < b.size) :
    (b.addEdge source target).graph.succs i
      = if i = source then b.graph.succs i ++ [target] else b.graph.succs i := by
  simp only [Graph.succs_eq_listOf, addEdge]
  rw [listOf_modifyBlock_of_eq, listOf_modifyBlock_of_append _ _ _ _ _ _ (fun _ => rfl) hs]
  exact fun _ => rfl

/-- The target of an edge gets the source as its last predecessor. -/
theorem preds_addEdge (b : Builder) (source target i : Nat) (ht : target < b.size) :
    (b.addEdge source target).graph.preds i
      = if i = target then b.graph.preds i ++ [source] else b.graph.preds i := by
  have ht' : target < (b.modifyBlock source
      fun blk => { blk with succs := blk.succs ++ [target] }).size := by
    simpa [size, modifyBlock] using ht
  simp only [Graph.preds_eq_listOf, addEdge]
  rw [listOf_modifyBlock_of_append _ _ _ _ _ _ (fun _ => rfl) ht', listOf_modifyBlock_of_eq]
  exact fun _ => rfl

/-! ## Adding an event -/

/-- An event adds no block. -/
@[simp] theorem size_addEvent (b : Builder) (e : Event) : (b.addEvent e).size = b.size := by
  simp [size, addEvent, modifyBlock]

/-- An event does not move the current block. -/
@[simp] theorem current_addEvent (b : Builder) (e : Event) :
    (b.addEvent e).current = b.current := rfl

/-- An event by itself defines nothing. -/
@[simp] theorem definitions_addEvent (b : Builder) (e : Event) :
    (b.addEvent e).graph.definitions = b.graph.definitions := rfl

/-- An event becomes the last one of the current block. -/
theorem events_addEvent (b : Builder) (e : Event) (i : Nat) (h : b.current < b.size) :
    (b.addEvent e).graph.events i
      = if i = b.current then b.graph.events i ++ [e] else b.graph.events i := by
  simp only [Graph.events_eq_listOf, addEvent]
  rw [listOf_modifyBlock_of_append _ _ _ _ _ _ (fun _ => rfl) h]

/-- An event draws no edge, seen from the source. -/
@[simp] theorem succs_addEvent (b : Builder) (e : Event) (i : Nat) :
    (b.addEvent e).graph.succs i = b.graph.succs i := by
  simp only [Graph.succs_eq_listOf, addEvent]
  rw [listOf_modifyBlock_of_eq]
  exact fun _ => rfl

/-- An event draws no edge, seen from the target. -/
@[simp] theorem preds_addEvent (b : Builder) (e : Event) (i : Nat) :
    (b.addEvent e).graph.preds i = b.graph.preds i := by
  simp only [Graph.preds_eq_listOf, addEvent]
  rw [listOf_modifyBlock_of_eq]
  exact fun _ => rfl

/-! ## Performing an effect -/


end Builder

/-- The definition that an effect adds when it is performed in the given block. -/
def Effect.definition (names : Names) (block : Nat) : Effect → List Definition
  | .define origin name span =>
    [{ variableName := name, line := span.line, column := span.column, origin := origin,
       block := block, escapes := origin == .assignment && names.escapes name }]
  | .read _ => []

namespace Builder

/-- Performs an effect in the current block. -/
def perform (names : Names) (b : Builder) : Effect → Builder
  | .define origin name span => b.define names origin name span
  | .read r => b.use r

variable {names : Names}

/-- An effect adds no block. -/
@[simp] theorem size_perform (b : Builder) (e : Effect) : (b.perform names e).size = b.size := by
  cases e with
  | define origin name span => simp [perform, define, size, addEvent, modifyBlock]
  | read r => simp [perform, use]

/-- An effect does not move the current block. -/
@[simp] theorem current_perform (b : Builder) (e : Effect) :
    (b.perform names e).current = b.current := by
  cases e <;> rfl

/-- The definition of an effect becomes the last one. -/
theorem definitions_perform (b : Builder) (e : Effect) :
    (b.perform names e).graph.definitions
      = b.graph.definitions ++ e.definition names b.current := by
  cases e with
  | define origin name span => rfl
  | read r => simp [perform, use, Effect.definition]

/-- The event of an effect becomes the last one of the current block, with the next free number if it defines. -/
theorem events_perform (b : Builder) (e : Effect) (i : Nat) (h : b.current < b.size) :
    (b.perform names e).graph.events i
      = if i = b.current then b.graph.events i ++ [e.event b.graph.definitions.length]
        else b.graph.events i := by
  cases e with
  | define origin name span =>
    simp only [perform, define]
    rw [events_addEvent _ _ _ (by simpa [size] using h)]
    rfl
  | read r =>
    simp only [perform, use]
    rw [events_addEvent _ _ _ h]
    rfl

/-- An effect draws no edge, seen from the source. -/
@[simp] theorem succs_perform (b : Builder) (e : Effect) (i : Nat) :
    (b.perform names e).graph.succs i = b.graph.succs i := by
  cases e with
  | define origin name span =>
    simp only [perform, define, succs_addEvent]
    rfl
  | read r => simp only [perform, use, succs_addEvent]

/-- An effect draws no edge, seen from the target. -/
@[simp] theorem preds_perform (b : Builder) (e : Effect) (i : Nat) :
    (b.perform names e).graph.preds i = b.graph.preds i := by
  cases e with
  | define origin name span =>
    simp only [perform, define, preds_addEvent]
    rfl
  | read r => simp only [perform, use, preds_addEvent]

/-- Performs several effects one after another. -/
def performAll (names : Names) (b : Builder) (effects : List Effect) : Builder :=
  effects.foldl (perform names) b

/-- Effects can be performed in two parts. -/
theorem performAll_append (b : Builder) (es fs : List Effect) :
    b.performAll names (es ++ fs) = (b.performAll names es).performAll names fs := by
  simp [performAll]

/-- Reading references is performing reads. -/
theorem foldl_use (names : Names) (b : Builder) (rs : List Reference) :
    rs.foldl use b = b.performAll names (rs.map .read) := by
  induction rs generalizing b with
  | nil => rfl
  | cons r rest ih => exact ih (b.use r)

/-- An expression is read by performing its effects. -/
theorem read_eq_performAll (names : Names) (b : Builder) (e : Expr) :
    b.read e = b.performAll names e.effects := by
  rw [e.effects_eq_map_reads]
  exact foldl_use names b e.reads

/-- Expressions are read by performing their effects. -/
theorem readAll_eq_performAll (names : Names) (b : Builder) (es : List Expr) :
    b.readAll es = b.performAll names (effectsOfExprs es) := by
  rw [effectsOfExprs_eq_map_reads]
  exact foldl_use names b (readsOfExprs es)

/-- A target is defined by performing its effects. -/
theorem defineTarget_eq_performAll (b : Builder) (origin : Origin) (target : Option Reference) :
    b.defineTarget names origin target = b.performAll names (effectsOfTarget origin target) := by
  cases target <;> rfl

/-! ## Steps -/

/-- Steps of lowering: effects are performed in the current block, edges are drawn from blocks that
satisfy `inner`, and blocks are opened. -/
inductive Steps (names : Names) (inner : Nat → Prop) : Builder → List Effect → Builder → Prop
  | refl (b : Builder) : Steps names inner b [] b
  | effect {b b' : Builder} {es : List Effect} (e : Effect) (h : Steps names inner b es b') :
      Steps names inner b (es ++ [e]) (b'.perform names e)
  | edge {b b' : Builder} {es : List Effect} {source target : Nat} (h : Steps names inner b es b')
      (hinner : inner source) (hs : source < b'.size) (hexit : source ≠ Graph.exit)
      (ht : target < b'.size) : Steps names inner b es (b'.addEdge source target)
  | block {b b' : Builder} {es : List Effect} (kind : BlockKind) (h : Steps names inner b es b') :
      Steps names inner b es (b'.startBlock kind)

namespace Steps

variable {inner wider : Nat → Prop} {b b' b'' : Builder} {es fs : List Effect}

/-- Steps can be put one after another. -/
theorem trans (h : Steps names inner b es b') (h' : Steps names inner b' fs b'') :
    Steps names inner b (es ++ fs) b'' := by
  induction h' with
  | refl => simpa using h
  | effect e _ ih =>
    rw [← List.append_assoc]
    exact .effect e ih
  | edge _ hinner hs hexit ht ih => exact .edge ih hinner hs hexit ht
  | block kind _ ih => exact .block kind ih

/-- The blocks that edges may start from can be widened. -/
theorem mono (h : Steps names inner b es b') (hw : ∀ i, inner i → wider i) :
    Steps names wider b es b' := by
  induction h with
  | refl => exact .refl _
  | effect e _ ih => exact .effect e ih
  | edge _ hinner hs hexit ht ih => exact .edge ih (hw _ hinner) hs hexit ht
  | block kind _ ih => exact .block kind ih

/-- Effects can be performed after other steps. -/
theorem performAll (h : Steps names inner b es b') (fs : List Effect) :
    Steps names inner b (es ++ fs) (b'.performAll names fs) := by
  induction fs generalizing es b' with
  | nil => simpa [Builder.performAll] using h
  | cons f rest ih =>
    have hnext := ih (.effect f h)
    simpa [Builder.performAll] using hnext

/-- A block can be opened after an inner one. -/
theorem startAfter (h : Steps names inner b es b') {source : Nat} (kind : BlockKind)
    (hinner : inner source) (hs : source < b'.size) (hexit : source ≠ Graph.exit) :
    Steps names inner b es (b'.startAfter source kind) := by
  refine .edge (.block kind h) hinner ?_ hexit ?_
  · rw [size_startBlock]; omega
  · rw [size_startBlock]; exact Nat.lt_succ_self _

/-- No block disappears. -/
theorem size_le (h : Steps names inner b es b') : b.size ≤ b'.size := by
  induction h with
  | refl => exact Nat.le_refl _
  | effect e _ ih => rwa [size_perform]
  | edge _ _ _ _ _ ih => rwa [size_addEdge]
  | block kind _ ih => rw [size_startBlock]; omega

/-- The current block stays the same or is a new one. -/
theorem current_eq_or (h : Steps names inner b es b') :
    b'.current = b.current ∨ b.size ≤ b'.current := by
  induction h with
  | refl => exact .inl rfl
  | effect e _ ih => rwa [current_perform]
  | edge _ _ _ _ _ ih => rwa [current_addEdge]
  | block kind h _ => exact .inr (by rw [current_startBlock]; exact h.size_le)

/-- The current block is always one of the graph. -/
theorem current_lt (h : Steps names inner b es b') (hb : b.current < b.size) :
    b'.current < b'.size := by
  induction h with
  | refl => exact hb
  | effect e _ ih => simpa using ih
  | edge _ _ _ _ _ ih => simpa using ih
  | block kind _ ih => simp

/-- Only the current block and new blocks get events. -/
theorem events_eq (h : Steps names inner b es b') (hb : b.current < b.size) {i : Nat}
    (hi : i < b.size) (hne : i ≠ b.current) : b'.graph.events i = b.graph.events i := by
  induction h with
  | refl => rfl
  | effect e h ih =>
    have hcur := h.current_eq_or
    rw [events_perform _ _ _ (h.current_lt hb), if_neg (by omega), ih]
  | edge _ _ _ _ _ ih => rw [events_addEdge, ih]
  | block kind _ ih => rw [events_startBlock, ih]

/-- Events are only ever appended. -/
theorem events_prefix (h : Steps names inner b es b') (hb : b.current < b.size) (i : Nat) :
    b.graph.events i <+: b'.graph.events i := by
  induction h with
  | refl => exact List.prefix_refl _
  | effect e h ih =>
    rw [events_perform _ _ _ (h.current_lt hb)]
    split
    · exact ih.trans (List.prefix_append _ _)
    · exact ih
  | edge _ _ _ _ _ ih => rwa [events_addEdge]
  | block kind _ ih => rwa [events_startBlock]

/-- Edges start from inner blocks only. -/
theorem succs_eq (h : Steps names inner b es b') {i : Nat} (hi : ¬ inner i) :
    b'.graph.succs i = b.graph.succs i := by
  induction h with
  | refl => rfl
  | effect e _ ih => rw [succs_perform, ih]
  | edge _ hinner hs _ _ ih =>
    have hne : i ≠ _ := fun heq => hi (heq ▸ hinner)
    rw [succs_addEdge _ _ _ _ hs, if_neg hne, ih]
  | block kind _ ih => rw [succs_startBlock, ih]

/-- Edges are only ever added. -/
theorem succs_subset (h : Steps names inner b es b') (i : Nat) :
    b.graph.succs i ⊆ b'.graph.succs i := by
  induction h with
  | refl => exact List.Subset.refl _
  | effect e _ ih => rwa [succs_perform]
  | edge _ _ hs _ _ ih =>
    rw [succs_addEdge _ _ _ _ hs]
    split
    · exact List.subset_append_of_subset_left _ ih
    · exact ih
  | block kind _ ih => rwa [succs_startBlock]

end Steps

/-! ## Well-formed graphs -/

/-- What holds of every graph under construction. The current block is the last one with events, the
exit has neither events nor successors, every edge is known at both of its ends, and a definition
event names an entry in the list of definitions that agrees with it. -/
structure WellFormed (b : Builder) : Prop where
  exit_lt : Graph.exit < b.size
  current_lt : b.current < b.size
  current_ne_exit : b.current ≠ Graph.exit
  events_later : ∀ i, b.current < i → b.graph.events i = []
  events_exit : b.graph.events Graph.exit = []
  succs_exit : b.graph.succs Graph.exit = []
  succs_lt : ∀ i, ∀ c ∈ b.graph.succs i, c < b.size
  mem_preds_iff : ∀ i c, i ∈ b.graph.preds c ↔ c ∈ b.graph.succs i
  definition_of_event : ∀ i, ∀ e ∈ b.graph.events i, ∀ d, e.definition = some d →
    ∃ x, b.graph.definitions[d]? = some x ∧ x.variableName = e.variableName ∧ x.block = i

/-- A block that does not exist yet has no successors. -/
theorem succs_of_size_le (b : Builder) {i : Nat} (h : b.size ≤ i) : b.graph.succs i = [] := by
  rw [Graph.succs_eq_listOf]
  unfold Graph.listOf
  rw [List.getElem?_eq_none h]
  rfl

/-- A block that does not exist yet has no events. -/
theorem events_of_size_le (b : Builder) {i : Nat} (h : b.size ≤ i) : b.graph.events i = [] := by
  rw [Graph.events_eq_listOf]
  unfold Graph.listOf
  rw [List.getElem?_eq_none h]
  rfl

namespace WellFormed

variable {b : Builder}

/-- Lowering starts with a well-formed graph. -/
theorem start : start.WellFormed where
  exit_lt := by decide
  current_lt := by decide
  current_ne_exit := by decide
  events_later i _ := by
    match i with
    | 0 | 1 => rfl
    | i + 2 => rfl
  events_exit := rfl
  succs_exit := rfl
  succs_lt i c hc := by
    match i with
    | 0 | 1 => cases hc
    | i + 2 => cases hc
  mem_preds_iff i c := by
    have hs : Builder.start.graph.succs i = [] := by
      match i with
      | 0 | 1 => rfl
      | i + 2 => rfl
    have hp : Builder.start.graph.preds c = [] := by
      match c with
      | 0 | 1 => rfl
      | c + 2 => rfl
    simp [hs, hp]
  definition_of_event i e he := by
    match i with
    | 0 | 1 => cases he
    | i + 2 => cases he

/-- Performing an effect. The definition it may add gets the next free number. -/
theorem perform (h : b.WellFormed) (e : Effect) : (b.perform names e).WellFormed where
  exit_lt := by simpa using h.exit_lt
  current_lt := by simpa using h.current_lt
  current_ne_exit := by simpa using h.current_ne_exit
  events_later i hi := by
    rw [current_perform] at hi
    rw [events_perform _ _ _ h.current_lt, if_neg (by omega), h.events_later i hi]
  events_exit := by
    rw [events_perform _ _ _ h.current_lt, if_neg (Ne.symm h.current_ne_exit), h.events_exit]
  succs_exit := by simpa using h.succs_exit
  succs_lt i c hc := by
    rw [succs_perform] at hc
    rw [size_perform]
    exact h.succs_lt i c hc
  mem_preds_iff i c := by simpa using h.mem_preds_iff i c
  definition_of_event i ev hev d hd := by
    rw [definitions_perform]
    rw [events_perform _ _ _ h.current_lt] at hev
    have old : ∀ ev ∈ b.graph.events i, ev.definition = some d →
        ∃ x, (b.graph.definitions ++ e.definition names b.current)[d]? = some x
          ∧ x.variableName = ev.variableName ∧ x.block = i := by
      intro ev hev hd
      obtain ⟨x, hx, hname, hblock⟩ := h.definition_of_event i ev hev d hd
      have hlt := (List.getElem?_eq_some_iff.mp hx).1
      exact ⟨x, by rw [List.getElem?_append_left hlt, hx], hname, hblock⟩
    split at hev
    · rename_i hcur
      rcases List.mem_append.mp hev with hev | hev
      · exact old ev hev hd
      · rw [List.mem_singleton] at hev
        subst hev
        cases e with
        | define origin name span =>
          simp only [Effect.event, Option.some.injEq] at hd
          subst hd
          simp [Effect.definition, Effect.event, hcur]
        | read r => cases hd
    · exact old ev hev hd

/-- An edge between existing blocks may be drawn, except from the exit. -/
theorem addEdge (h : b.WellFormed) {source target : Nat} (hs : source < b.size)
    (hexit : source ≠ Graph.exit) (ht : target < b.size) :
    (b.addEdge source target).WellFormed where
  exit_lt := by simpa using h.exit_lt
  current_lt := by simpa using h.current_lt
  current_ne_exit := h.current_ne_exit
  events_later i hi := by simpa using h.events_later i hi
  events_exit := by simpa using h.events_exit
  succs_exit := by rw [succs_addEdge _ _ _ _ hs, if_neg (Ne.symm hexit), h.succs_exit]
  succs_lt i c hc := by
    rw [size_addEdge]
    rw [succs_addEdge _ _ _ _ hs] at hc
    split at hc
    · rcases List.mem_append.mp hc with hc | hc
      · exact h.succs_lt i c hc
      · rw [List.mem_singleton] at hc
        exact hc ▸ ht
    · exact h.succs_lt i c hc
  mem_preds_iff i c := by
    have hold := h.mem_preds_iff i c
    rw [succs_addEdge _ _ _ _ hs, preds_addEdge _ _ _ _ ht]
    by_cases hi : i = source <;> by_cases hc : c = target <;> simp [hi, hc] at hold ⊢ <;>
      simp [hold]
  definition_of_event i e he := by
    rw [events_addEdge] at he
    rw [definitions_addEdge]
    exact h.definition_of_event i e he

/-- A new block has neither events nor edges, so nothing can go wrong with it. -/
theorem startBlock (h : b.WellFormed) (kind : BlockKind) : (b.startBlock kind).WellFormed where
  exit_lt := by
    have := h.exit_lt
    rw [size_startBlock]; omega
  current_lt := by simp
  current_ne_exit := by
    have := h.exit_lt
    rw [current_startBlock]; omega
  events_later i hi := by
    rw [current_startBlock] at hi
    rw [events_startBlock, events_of_size_le b (by omega)]
  events_exit := by simpa using h.events_exit
  succs_exit := by simpa using h.succs_exit
  succs_lt i c hc := by
    rw [succs_startBlock] at hc
    have := h.succs_lt i c hc
    rw [size_startBlock]; omega
  mem_preds_iff i c := by simpa using h.mem_preds_iff i c
  definition_of_event i e he := by
    rw [events_startBlock] at he
    rw [definitions_startBlock]
    exact h.definition_of_event i e he

end WellFormed

/-- Steps keep a graph well-formed. -/
theorem Steps.wellFormed {inner : Nat → Prop} {b b' : Builder} {es : List Effect}
    (h : Steps names inner b es b') (hb : b.WellFormed) : b'.WellFormed := by
  induction h with
  | refl => exact hb
  | effect e _ ih => exact ih.perform e
  | edge _ _ hs hexit ht ih => exact ih.addEdge hs hexit ht
  | block kind _ ih => exact ih.startBlock kind

end Builder

end Flow

end ModuleLint
