import Mathlib.Data.List.Nodup
import Mathlib.Logic.Relation
import ModuleLint.Proofs.Flow.ExitPaths
import ModuleLint.Proofs.Flow.MentionSites
import ModuleLint.Proofs.Flow.Occurrences

/-!
# The shape of a flow graph

Blocks and definitions are numbered by their positions in the graph. The flow graph of a routine has its entry and its
exit in front, its edges are known at both ends and drawn once, blocks without predecessors are just the entry and
those after a return, every block leads to the exit, and each definition has one event (`wellShaped_ofRoutine`).

Single steps of lowering do not keep this shape: a block that has just been opened has no predecessor, whatever its
kind. Lowering goes from one graph of that shape to the next by larger moves (`Builder.Move`): a block is opened
together with the edges that lead to it, and the block that ends with a jump had no edges before. A graph under
construction stays tidy along such moves (`Builder.Move.tidy`), and lowering makes no others (`lowerStmts_moves`).
-/

set_option autoImplicit false

namespace ModuleLint.Flow

/-- Blocks of these kinds are opened together with an edge that leads to them. -/
def BlockKind.isConnected : BlockKind → Bool
  | .entry => false
  | .exit => false
  | .unreachable => false
  | _ => true

/-- The kind of a block, if there is the block. -/
def Graph.kind? (g : Graph) (i : Nat) : Option BlockKind := g.blocks[i]?.map Block.kind

/-- What has a kind is a block. -/
theorem Graph.lt_of_kind? {g : Graph} {i : Nat} {kind : BlockKind} (h : g.kind? i = some kind) :
    i < g.blocks.length := by
  obtain ⟨blk, hblk, -⟩ := Option.map_eq_some_iff.mp h
  exact (List.getElem?_eq_some_iff.mp hblk).1

variable {names : Names}

namespace Builder

variable {b b' : Builder} {es : List Effect}

/-! ## Kinds and predecessors along single steps -/

/-- A change of one block that keeps its kind keeps all kinds. -/
theorem kind?_modifyBlock (b : Builder) (i k : Nat) (change : Block → Block)
    (h : ∀ blk, (change blk).kind = blk.kind) :
    (b.modifyBlock i change).graph.kind? k = b.graph.kind? k := by
  unfold Graph.kind? modifyBlock
  rw [List.getElem?_modify]
  cases b.graph.blocks[k]? with
  | none => rfl
  | some blk => by_cases hik : i = k <;> simp [hik, h]

/-- An edge changes no kind. -/
@[simp] theorem kind?_addEdge (b : Builder) (source target i : Nat) :
    (b.addEdge source target).graph.kind? i = b.graph.kind? i := by
  unfold addEdge
  rw [kind?_modifyBlock, kind?_modifyBlock]
  · exact fun _ => rfl
  · exact fun _ => rfl

/-- An effect changes no kind. -/
@[simp] theorem kind?_perform (b : Builder) (e : Effect) (i : Nat) :
    (b.perform names e).graph.kind? i = b.graph.kind? i := by
  cases e with
  | define origin name span =>
    simp only [perform, define, addEvent]
    rw [kind?_modifyBlock]
    · rfl
    · exact fun _ => rfl
  | read r =>
    simp only [perform, use, addEvent]
    rw [kind?_modifyBlock]
    exact fun _ => rfl

/-- A new block has the kind it is opened with. -/
theorem kind?_startBlock (b : Builder) (kind : BlockKind) (i : Nat) :
    (b.startBlock kind).graph.kind? i = if i = b.size then some kind else b.graph.kind? i := by
  unfold Graph.kind? startBlock
  rw [List.getElem?_append]
  by_cases hlt : i < b.graph.blocks.length
  · have hne : i ≠ b.size := Nat.ne_of_lt hlt
    rw [if_pos hlt, if_neg hne]
  · rw [if_neg hlt, List.getElem?_eq_none (Nat.le_of_not_lt hlt)]
    by_cases heq : i = b.size
    · subst heq
      simp [size]
    · have hpos : i - b.graph.blocks.length ≠ 0 := by
        unfold size at heq
        omega
      simp [heq, hpos]

/-- A block that follows another has the kind it is opened with. -/
@[simp] theorem kind?_startAfter (b : Builder) (source : Nat) (kind : BlockKind) (i : Nat) :
    (b.startAfter source kind).graph.kind? i = if i = b.size then some kind else b.graph.kind? i := by
  unfold startAfter
  rw [kind?_addEdge, kind?_startBlock]

/-- A block that follows another has it as its predecessor. -/
theorem preds_startAfter (b : Builder) (source : Nat) (kind : BlockKind) (i : Nat) :
    (b.startAfter source kind).graph.preds i
      = if i = b.size then b.graph.preds i ++ [source] else b.graph.preds i := by
  unfold startAfter
  rw [preds_addEdge _ _ _ _ (by rw [size_startBlock]; exact Nat.lt_succ_self _), preds_startBlock]
  rfl

/-- Blocks keep their kinds. -/
theorem Steps.kind?_eq {inner : Nat → Prop} (h : Steps names inner b es b') {i : Nat} (hi : i < b.size) :
    b'.graph.kind? i = b.graph.kind? i := by
  induction h with
  | refl => rfl
  | effect e _ ih => rw [kind?_perform, ih]
  | edge _ _ _ _ _ ih => rw [kind?_addEdge, ih]
  | block kind h ih =>
    have hsize := h.size_le
    rw [kind?_startBlock, if_neg (by omega), ih]

/-- Predecessors are only ever added. -/
theorem Steps.preds_subset {inner : Nat → Prop} (h : Steps names inner b es b') (i : Nat) :
    b.graph.preds i ⊆ b'.graph.preds i := by
  induction h with
  | refl => exact List.Subset.refl _
  | effect e _ ih => rwa [preds_perform]
  | edge _ _ _ _ ht ih =>
    rw [preds_addEdge _ _ _ _ ht]
    split
    · exact List.subset_append_of_subset_left _ ih
    · exact ih
  | block kind _ ih => rwa [preds_startBlock]

/-! ## Tidy graphs -/

/-- Entry and exit are where they belong, edges are drawn once, and none leads to the entry or to a block after a
return. -/
structure Neat (b : Builder) : Prop where
  wellFormed : b.WellFormed
  kind_entry_iff : ∀ i, b.graph.kind? i = some .entry ↔ i = Graph.entry
  kind_exit_iff : ∀ i, b.graph.kind? i = some .exit ↔ i = Graph.exit
  nodup_succs : ∀ i, (b.graph.succs i).Nodup
  nodup_preds : ∀ i, (b.graph.preds i).Nodup
  preds_entry : b.graph.preds Graph.entry = []
  preds_unreachable : ∀ i, b.graph.kind? i = some .unreachable → b.graph.preds i = []

/-- Every block but entry, exit and those after a return has a predecessor. -/
def Connected (b : Builder) : Prop :=
  ∀ i < b.size, i ≠ Graph.entry → i ≠ Graph.exit → b.graph.kind? i ≠ some .unreachable →
    b.graph.preds i ≠ []

/-- A graph under construction has the shape of a finished one, but for the edges to the exit. -/
structure Tidy (b : Builder) : Prop where
  neat : b.Neat
  connected : b.Connected

namespace Neat

/-- The graph that has only entry and exit is neat. -/
theorem start : start.Neat where
  wellFormed := .start
  kind_entry_iff i := by
    match i with
    | 0 | 1 => decide
    | i + 2 => simp [Graph.kind?, Builder.start, Graph.entry]
  kind_exit_iff i := by
    match i with
    | 0 | 1 => decide
    | i + 2 => simp [Graph.kind?, Builder.start, Graph.exit]
  nodup_succs i := by
    match i with
    | 0 | 1 => exact List.nodup_nil
    | i + 2 => exact List.nodup_nil
  nodup_preds i := by
    match i with
    | 0 | 1 => exact List.nodup_nil
    | i + 2 => exact List.nodup_nil
  preds_entry := rfl
  preds_unreachable i _ := by
    match i with
    | 0 | 1 => rfl
    | i + 2 => rfl

/-- An effect draws no edge and opens no block. -/
theorem perform (h : b.Neat) (e : Effect) : (b.perform names e).Neat where
  wellFormed := h.wellFormed.perform e
  kind_entry_iff i := by rw [kind?_perform, h.kind_entry_iff]
  kind_exit_iff i := by rw [kind?_perform, h.kind_exit_iff]
  nodup_succs i := by rw [succs_perform]; exact h.nodup_succs i
  nodup_preds i := by rw [preds_perform]; exact h.nodup_preds i
  preds_entry := by rw [preds_perform, h.preds_entry]
  preds_unreachable i hi := by
    rw [kind?_perform] at hi
    rw [preds_perform, h.preds_unreachable i hi]

/-- A block without edges may be opened, unless it is a second entry or exit. -/
theorem startBlock (h : b.Neat) {kind : BlockKind} (hentry : kind ≠ .entry) (hexit : kind ≠ .exit) :
    (b.startBlock kind).Neat where
  wellFormed := h.wellFormed.startBlock kind
  kind_entry_iff i := by
    have hlt := h.wellFormed.exit_lt
    rw [kind?_startBlock]
    split
    · simp only [Option.some.injEq, hentry, false_iff, Graph.entry]
      omega
    · exact h.kind_entry_iff i
  kind_exit_iff i := by
    have hlt := h.wellFormed.exit_lt
    rw [kind?_startBlock]
    split
    · simp only [Option.some.injEq, hexit, false_iff]
      omega
    · exact h.kind_exit_iff i
  nodup_succs i := by rw [succs_startBlock]; exact h.nodup_succs i
  nodup_preds i := by rw [preds_startBlock]; exact h.nodup_preds i
  preds_entry := by rw [preds_startBlock, h.preds_entry]
  preds_unreachable i hi := by
    rw [preds_startBlock]
    rw [kind?_startBlock] at hi
    split at hi
    · rename_i heq
      rw [Graph.preds_eq_listOf]
      unfold Graph.listOf
      rw [List.getElem?_eq_none (by rw [heq]; exact Nat.le_refl _)]
      rfl
    · exact h.preds_unreachable i hi

/-- An edge that is new and leads neither to the entry nor to a block after a return. -/
theorem addEdge (h : b.Neat) {source target : Nat} (hs : source < b.size) (hexit : source ≠ Graph.exit)
    (ht : target < b.size) (hnew : target ∉ b.graph.succs source) (hentry : target ≠ Graph.entry)
    (hkind : b.graph.kind? target ≠ some .unreachable) : (b.addEdge source target).Neat where
  wellFormed := h.wellFormed.addEdge hs hexit ht
  kind_entry_iff i := by rw [kind?_addEdge, h.kind_entry_iff]
  kind_exit_iff i := by rw [kind?_addEdge, h.kind_exit_iff]
  nodup_succs i := by
    rw [succs_addEdge _ _ _ _ hs]
    split
    · rename_i heq
      subst heq
      exact List.nodup_append'.mpr ⟨h.nodup_succs i, List.nodup_singleton _, by simpa using hnew⟩
    · exact h.nodup_succs i
  nodup_preds i := by
    rw [preds_addEdge _ _ _ _ ht]
    split
    · rename_i heq
      subst heq
      have hnew' : source ∉ b.graph.preds i := mt (h.wellFormed.mem_preds_iff source i).mp hnew
      exact List.nodup_append'.mpr ⟨h.nodup_preds i, List.nodup_singleton _, by simpa using hnew'⟩
    · exact h.nodup_preds i
  preds_entry := by rw [preds_addEdge _ _ _ _ ht, if_neg (Ne.symm hentry), h.preds_entry]
  preds_unreachable i hi := by
    rw [kind?_addEdge] at hi
    have hne : i ≠ target := fun heq => hkind (heq ▸ hi)
    rw [preds_addEdge _ _ _ _ ht, if_neg hne, h.preds_unreachable i hi]

/-- A block that follows another one. -/
theorem startAfter (h : b.Neat) {source : Nat} {kind : BlockKind} (hs : source < b.size)
    (hexit : source ≠ Graph.exit) (hkind : kind.isConnected = true) : (b.startAfter source kind).Neat := by
  have hlt := h.wellFormed.exit_lt
  have hopened : (b.startBlock kind).Neat := by
    apply h.startBlock <;> rintro rfl <;> cases hkind
  refine hopened.addEdge ?_ hexit ?_ ?_ ?_ ?_
  · rw [size_startBlock]; omega
  · rw [size_startBlock]; exact Nat.lt_succ_self _
  · rw [succs_startBlock]
    exact fun hmem => Nat.lt_irrefl _ (h.wellFormed.succs_lt source _ hmem)
  · exact Nat.ne_of_gt (Nat.lt_trans Nat.zero_lt_one hlt)
  · show (b.startBlock kind).graph.kind? b.size ≠ _
    rw [kind?_startBlock, if_pos rfl, ne_eq, Option.some.injEq]
    rintro rfl
    cases hkind

/-- A block where several others meet. -/
theorem meet (h : b.Neat) {ends : List Nat} (hnodup : ends.Nodup) (hlt : ∀ e ∈ ends, e < b.size)
    (hexit : ∀ e ∈ ends, e ≠ Graph.exit) : (b.meet ends).Neat := by
  -- each end is new to the block where they meet, also when others have been connected
  have hdraw : ∀ (ends : List Nat) (c : Builder), c.Neat → ends.Nodup → b.size < c.size →
      c.graph.kind? b.size = some .join →
      (∀ e ∈ ends, e < b.size ∧ e ≠ Graph.exit ∧ b.size ∉ c.graph.succs e) →
      (ends.foldl (fun b' source => b'.addEdge source b.size) c).Neat := by
    intro ends
    induction ends with
    | nil => exact fun c hc _ _ _ _ => hc
    | cons e rest ih =>
      intro c hc hnodup hsize hjoin hends
      obtain ⟨hnot, hnodup⟩ := List.nodup_cons.mp hnodup
      obtain ⟨he, hexit, hnew⟩ := hends e List.mem_cons_self
      have hsource : e < c.size := Nat.lt_trans he hsize
      have hentry : b.size ≠ Graph.entry :=
        Nat.ne_of_gt (Nat.lt_trans Nat.zero_lt_one h.wellFormed.exit_lt)
      refine ih _ (hc.addEdge hsource hexit hsize hnew hentry (by rw [hjoin]; decide)) hnodup
        (by rwa [size_addEdge]) (by rwa [kind?_addEdge]) fun x hx => ?_
      obtain ⟨hx', hxexit, hxnew⟩ := hends x (List.mem_cons_of_mem e hx)
      have hne : x ≠ e := fun heq => hnot (heq ▸ hx)
      exact ⟨hx', hxexit, by rwa [succs_addEdge _ _ _ _ hsource, if_neg hne]⟩
  refine hdraw ends (b.startBlock .join) (h.startBlock (by decide) (by decide)) hnodup (by simp) ?_ ?_
  · rw [kind?_startBlock, if_pos rfl]
  · intro e he
    refine ⟨hlt e he, hexit e he, ?_⟩
    rw [succs_startBlock]
    exact fun hmem => Nat.lt_irrefl _ (h.wellFormed.succs_lt e _ hmem)

end Neat

/-- Steps keep blocks connected, so that only new blocks matter. -/
theorem Connected.steps {inner : Nat → Prop} (h : b.Connected) (hsteps : Steps names inner b es b')
    (hnew : ∀ i, b.size ≤ i → i < b'.size →
      b'.graph.kind? i = some .unreachable ∨ b'.graph.preds i ≠ []) : b'.Connected := by
  intro i hi hentry hexit hkind
  by_cases hold : i < b.size
  · rw [hsteps.kind?_eq hold] at hkind
    have hpreds := h i hold hentry hexit hkind
    obtain ⟨p, hp⟩ := List.exists_mem_of_ne_nil _ hpreds
    exact List.ne_nil_of_mem (hsteps.preds_subset i hp)
  · exact (hnew i (Nat.le_of_not_lt hold) hi).resolve_left hkind

/-! ## Moves -/

/-- What lowering does at a time: an effect is performed, a block is opened after another one, the current block ends
with a jump to the exit or back to the header of a loop, a block is opened after such an end, and the ends of branches
meet in a new block. -/
inductive Move (names : Names) : Builder → Builder → Prop
  | perform (b : Builder) (e : Effect) : Move names b (b.perform names e)
  | follow {b : Builder} {source : Nat} {kind : BlockKind} (hs : source < b.size)
      (hexit : source ≠ Graph.exit) (hkind : kind.isConnected = true) :
      Move names b (b.startAfter source kind)
  | jump {b : Builder} {target : Nat} (ho : b.Open)
      (ht : target = Graph.exit ∨ b.graph.kind? target = some .loopHeader) :
      Move names b (b.addEdge b.current target)
  | strand (b : Builder) : Move names b (b.startBlock .unreachable)
  | meet {b : Builder} {ends : List Nat} (hne : ends ≠ []) (hnodup : ends.Nodup)
      (hlt : ∀ e ∈ ends, e < b.size) (hexit : ∀ e ∈ ends, e ≠ Graph.exit) :
      Move names b (b.meet ends)

/-- A move keeps a graph tidy. -/
theorem Move.tidy (h : Move names b b') (hb : b.Tidy) : b'.Tidy := by
  have hwf := hb.neat.wellFormed
  cases h with
  | perform e =>
    refine ⟨hb.neat.perform e, fun i hi => ?_⟩
    rw [kind?_perform, preds_perform]
    exact hb.connected i (by rwa [size_perform] at hi)
  | @follow source kind hs hexit hkind =>
    have hsteps : Steps names (fun _ => True) b [] (b.startAfter source kind) :=
      (Steps.refl b).startAfter kind trivial hs hexit
    refine ⟨hb.neat.startAfter hs hexit hkind, hb.connected.steps hsteps fun i hge hlt => .inr ?_⟩
    have heq : i = b.size := by
      rw [size_startAfter] at hlt
      omega
    rw [preds_startAfter, if_pos heq]
    simp
  | @jump target ho ht =>
    have hkinds : b.graph.kind? target = some .exit ∨ b.graph.kind? target = some .loopHeader :=
      ht.imp_left (hb.neat.kind_exit_iff target).mpr
    have hlt : target < b.size := hkinds.elim Graph.lt_of_kind? Graph.lt_of_kind?
    have hentry : target ≠ Graph.entry := by
      rw [ne_eq, ← hb.neat.kind_entry_iff]
      rcases hkinds with h | h <;> rw [h] <;> decide
    have hkind : b.graph.kind? target ≠ some .unreachable := by
      rcases hkinds with h | h <;> rw [h] <;> decide
    have hnew : target ∉ b.graph.succs b.current := by
      rw [show b.graph.succs b.current = [] from ho]
      exact List.not_mem_nil
    have hsteps : Steps names (fun _ => True) b [] (b.addEdge b.current target) :=
      .edge (.refl b) trivial hwf.current_lt hwf.current_ne_exit hlt
    refine ⟨hb.neat.addEdge hwf.current_lt hwf.current_ne_exit hlt hnew hentry hkind,
      hb.connected.steps hsteps fun i hge hlt' => ?_⟩
    rw [size_addEdge] at hlt'
    omega
  | strand =>
    have hsteps : Steps names (fun _ => True) b [] (b.startBlock .unreachable) := .block _ (.refl b)
    refine ⟨hb.neat.startBlock (by decide) (by decide), hb.connected.steps hsteps fun i hge hlt => .inl ?_⟩
    have heq : i = b.size := by
      rw [size_startBlock] at hlt
      omega
    rw [kind?_startBlock, if_pos heq]
  | @meet ends hne hnodup hlt hexit =>
    have hsteps : Steps names (fun _ => True) b [] (b.meet ends) :=
      (Steps.refl b).meet ends (fun _ _ => trivial) hlt hexit
    have hneat := hb.neat.meet hnodup hlt hexit
    refine ⟨hneat, hb.connected.steps hsteps fun i hge hlt' => .inr ?_⟩
    have heq : i = b.size := by
      rw [size_meet] at hlt'
      omega
    obtain ⟨e, he⟩ := List.exists_mem_of_ne_nil _ hne
    have hedge : i ∈ (b.meet ends).graph.succs e := by
      rw [succs_meet b ends e hlt hnodup, if_pos he, heq]
      simp
    exact List.ne_nil_of_mem ((hneat.wellFormed.mem_preds_iff e i).mpr hedge)

/-- Moves one after another. -/
abbrev Moves (names : Names) : Builder → Builder → Prop := Relation.ReflTransGen (Move names)

/-- Moves keep a graph tidy. -/
theorem Moves.tidy (h : Moves names b b') (hb : b.Tidy) : b'.Tidy := by
  induction h with
  | refl => exact hb
  | tail _ hmove ih => exact hmove.tidy ih

/-- The graph that has only entry and exit is tidy. -/
theorem tidy_start : start.Tidy where
  neat := .start
  connected i hi hentry hexit := by
    have hlt : i < 2 := hi
    unfold Graph.entry Graph.exit at *
    omega

/-- Effects are moves one by one. -/
theorem Moves.performAll (b : Builder) (es : List Effect) : Moves names b (b.performAll names es) := by
  induction es generalizing b with
  | nil => exact .refl
  | cons e rest ih => exact .head (.perform b e) (ih (b.perform names e))

end Builder

open Builder

/-! ## Lowering makes moves -/

/-- What lowering a block of statements moves, whatever it is lowered into. -/
def MovesStmts (names : Names) (body : List Stmt) : Prop :=
  ∀ b : Builder, b.WellFormed → b.Open → Moves names b (lowerStmts names body b)

/-- A loop is lowered by moves when its body is. -/
theorem moves_loop {body : List Stmt} (hbody : MovesStmts names body) (head : List Effect) {b : Builder}
    (hb : b.WellFormed) : Moves names b (lowerLoop names head body b) := by
  have hinside : Lowers names b head (loopInside names head b) := lowers_loopInside hb head
  have hin := hinside.steps.wellFormed hb
  have hlooped := lowerStmts_lowers names body _ hin hinside.isOpen
  have hsize := hlooped.steps.size_le
  rw [size_loopInside] at hsize
  have hexit : b.size ≠ Graph.exit := Nat.ne_of_gt hb.exit_lt
  -- the header is a block of its kind from the moment it is opened
  have hheader : (lowerStmts names body (loopInside names head b)).graph.kind? b.size
      = some .loopHeader := by
    rw [hlooped.steps.kind?_eq (by rw [size_loopInside]; omega),
      (steps_loopInside hb head).kind?_eq (by rw [size_startAfter]; omega), kind?_startAfter,
      if_pos rfl]
  have henter : Moves names b (loopInside names head b) := by
    have hheader : Move names b (b.startAfter b.current .loopHeader) :=
      .follow hb.current_lt hb.current_ne_exit rfl
    exact .head hheader (.tail (Moves.performAll _ head) (.follow (by simp) hexit rfl))
  rw [lowerLoop_eq]
  refine (henter.trans (hbody _ hin hinside.isOpen)).trans ?_
  refine .tail (.single (.jump hlooped.isOpen (.inr hheader))) (.follow ?_ hexit rfl)
  rw [size_addEdge]
  omega

namespace Branching

variable {br : Branching}

/-- A branch is lowered by moves when its block is. -/
theorem moves_take {body : List Stmt} (hbody : MovesStmts names body) {kind : BlockKind}
    (hkind : kind.isConnected = true) (h : br.WellFormed) :
    Moves names br.builder (br.take names kind body).builder := by
  have hstart : Steps names br.inner br.builder [] (br.builder.startAfter br.test kind) :=
    (Steps.refl _).startAfter kind (.inl rfl) h.test_lt h.test_ne_exit
  exact .head (.follow h.test_lt h.test_ne_exit hkind)
    (hbody _ (hstart.wellFormed h.builder) (open_startAfter br.builder kind h.test_lt))

/-- A further test is lowered by moves. -/
theorem moves_nextTest (condition : Expr) (h : br.WellFormed) :
    Moves names br.builder (br.nextTest names condition).builder :=
  .head (.follow h.test_lt h.test_ne_exit rfl) (Moves.performAll _ condition.effects)

/-- The last branch is lowered by moves, and where there is none nothing moves. -/
theorem moves_finish {otherwise : List Stmt} (hbody : MovesStmts names otherwise) (h : br.WellFormed) :
    Moves names br.builder (br.finish names otherwise).builder := by
  cases otherwise with
  | nil => exact .refl
  | cons s rest => exact moves_take hbody rfl h

/-- A branching statement has at least one end. -/
theorem ends_finish_ne_nil (otherwise : List Stmt) : (br.finish names otherwise).ends ≠ [] := by
  cases otherwise with
  | nil => exact List.append_ne_nil_of_right_ne_nil _ (List.cons_ne_nil _ _)
  | cons s rest => exact List.append_ne_nil_of_right_ne_nil _ (List.cons_ne_nil _ _)

end Branching

/-- A branching statement is lowered by moves, branch by branch, until its ends meet. -/
theorem moves_branches {body otherwise : List Stmt} {alternatives : List Alternative}
    (hbody : MovesStmts names body)
    (halternatives : ∀ br : Branching, br.WellFormed →
      Moves names br.builder (lowerAlternatives names alternatives br).builder)
    (hotherwise : MovesStmts names otherwise) {b : Builder} (hb : b.WellFormed) :
    Moves names b (lowerBranches names body alternatives otherwise b) := by
  have hfirst := Branching.wellFormed_opened hb
  have htake := Branching.advances_take (lowerStmts_lowers names body) .thenBranch hfirst
  have halts := lowerAlternatives_advances names alternatives _ htake.wellFormed
  have hdone := Branching.finished_finish (lowerStmts_lowers names otherwise) halts.wellFormed
  have hthen : Moves names b ((Branching.opened b).take names .thenBranch body).builder :=
    Branching.moves_take hbody rfl hfirst
  refine .tail ((hthen.trans (halternatives _ htake.wellFormed)).trans
    (Branching.moves_finish hotherwise halts.wellFormed)) ?_
  exact .meet (Branching.ends_finish_ne_nil otherwise) hdone.nodup hdone.lt_of_mem hdone.ne_exit_of_mem

mutual

/-- A statement is lowered by moves, by the recursion over its parts. -/
theorem lowerStmt_moves (names : Names) (s : Stmt) (b : Builder) (hb : b.WellFormed) (ho : b.Open) :
    Moves names b (lowerStmt names s b) := by
  match s with
  | .hole _ => exact .refl
  | .generic _ => exact .refl
  | .declare d =>
    rw [lowerStmt_declare]
    exact .performAll b _
  | .assign a =>
    rw [lowerStmt_assign]
    exact .performAll b _
  | .call c =>
    rw [lowerStmt_call]
    exact .performAll b _
  | .leave span value =>
    rw [lowerStmt_leave]
    have hread : Lowers names b value.effects _ := .performAll ho _
    exact .tail (.tail (Moves.performAll b _) (.jump hread.isOpen (.inl rfl))) (.strand _)
  | .loopWhile span condition body =>
    rw [lowerStmt_loopWhile]
    exact moves_loop (lowerStmts_moves names body) _ hb
  | .loopFor span counter first last collection body =>
    rw [lowerStmt_loopFor]
    have hread : Lowers names b (first.effects ++ last.effects ++ collection.effects) _ :=
      .performAll ho _
    exact (Moves.performAll b _).trans
      (moves_loop (lowerStmts_moves names body) _ (hread.steps.wellFormed hb))
  | .branch span condition body alternatives otherwise =>
    rw [lowerStmt_branch]
    have hread : Lowers names b condition.effects _ := .performAll ho _
    exact (Moves.performAll b _).trans (moves_branches (lowerStmts_moves names body)
      (lowerAlternatives_moves names alternatives) (lowerStmts_moves names otherwise)
      (hread.steps.wellFormed hb))

/-- Statements are lowered by moves, one after another. -/
theorem lowerStmts_moves (names : Names) (body : List Stmt) (b : Builder) (hb : b.WellFormed)
    (ho : b.Open) : Moves names b (lowerStmts names body b) := by
  match body with
  | [] => exact .refl
  | s :: rest =>
    have hs := lowerStmt_lowers names s b hb ho
    exact (lowerStmt_moves names s b hb ho).trans
      (lowerStmts_moves names rest _ (hs.steps.wellFormed hb) hs.isOpen)

/-- Further conditions are lowered by moves, one after another. -/
theorem lowerAlternatives_moves (names : Names) (alternatives : List Alternative) (br : Branching)
    (h : br.WellFormed) : Moves names br.builder (lowerAlternatives names alternatives br).builder := by
  match alternatives with
  | [] => exact .refl
  | .mk condition body :: rest =>
    have htest : br.Advances names condition.effects (br.nextTest names condition) :=
      Branching.advances_nextTest condition h
    have hone := Branching.advances_alternative (lowerStmts_lowers names body) condition h
    have hmoves : Moves names br.builder (lowerAlternative names (.mk condition body) br).builder := by
      rw [lowerAlternative_eq]
      exact (Branching.moves_nextTest condition h).trans
        (Branching.moves_take (lowerStmts_moves names body) rfl htest.wellFormed)
    exact hmoves.trans (lowerAlternatives_moves names rest _ hone.wellFormed)

end

/-- The steps of a routine are moves from the graph that has only entry and exit. -/
theorem tidy_finalBuilder (m : Option Module) (r : Routine) : (finalBuilder m r).Tidy := by
  have hentry := entry_lowers m r
  have hbody := lowerStmts_moves (Names.ofRoutine m r) r.body _ (hentry.steps.wellFormed .start)
    hentry.isOpen
  have hmoves : Moves (Names.ofRoutine m r) Builder.start (finalBuilder m r) :=
    .tail ((Moves.performAll Builder.start (r.entryEffects m)).trans hbody)
      (.jump (body_lowers m r).isOpen (.inl rfl))
  exact hmoves.tidy tidy_start

/-! ## Definitions and their events -/

/-- A definition event tells the definition of its number, and the definition tells the block of the event. -/
theorem definition_of_mem_events {m : Option Module} {r : Routine} {b i : Nat} {e : Event} {d : Definition}
    (he : e ∈ (Graph.ofRoutine m r).events b) (hnumber : e.definition = some i)
    (hd : (Graph.ofRoutine m r).definitions[i]? = some d) : b = d.block ∧ e.spot = d.spot := by
  obtain ⟨j, hj⟩ := List.mem_iff_getElem?.mp he
  have hlt := (List.getElem?_eq_some_iff.mp hj).1
  have hplace := eventAt_place m r hlt
  rw [hj, eventAt_eq] at hplace
  obtain ⟨effect, hscript, rfl⟩ := Option.map_eq_some_iff.mp hplace
  cases effect with
  | read => cases hnumber
  | define origin name span =>
    obtain rfl := Option.some.inj hnumber
    obtain ⟨x, hx, hname, hline, hcolumn, -⟩ := definitions_numberAt hscript
    obtain rfl : x = d := Option.some.inj (hx.symm.trans hd)
    refine ⟨(block_of_definition hlt hscript hd).symm, ?_⟩
    unfold Definition.spot
    rw [hname, hline, hcolumn]
    rfl

/-- Each number of a definition is that of one event. -/
theorem count_definition_events (m : Option Module) (r : Routine) {i : Nat}
    (hi : i < (Graph.ofRoutine m r).definitions.length) :
    ((Graph.ofRoutine m r).blocks.flatMap Block.events).countP (fun e => e.definition == some i) = 1 := by
  have hnumbers := congrArg (List.count i) (definition_events_ofRoutine m r)
  rw [List.count_eq_one_of_mem List.nodup_range (List.mem_range.mpr hi), List.count,
    List.countP_filterMap] at hnumbers
  rw [← hnumbers]
  apply List.countP_congr
  intro e _
  cases e.definition with
  | none => rfl
  | some j => simp

/-- The end of the body leads to the exit. -/
theorem preds_exit_ne_nil (m : Option Module) (r : Routine) :
    (finalBuilder m r).graph.preds Graph.exit ≠ [] := by
  have hb := wellFormed_bodyBuilder m r
  unfold finalBuilder
  rw [preds_addEdge _ _ _ _ hb.exit_lt, if_pos rfl]
  exact List.append_ne_nil_of_right_ne_nil _ (List.cons_ne_nil _ _)

namespace Graph

/-- The shape of a finished graph. -/
structure WellShaped (g : Graph) : Prop where
  kind_entry_iff : ∀ i, g.kind? i = some .entry ↔ i = entry
  kind_exit_iff : ∀ i, g.kind? i = some .exit ↔ i = exit
  lt_of_edge : ∀ a, ∀ b ∈ g.succs a, a < g.blocks.length ∧ b < g.blocks.length
  mem_preds_iff : ∀ a b, a ∈ g.preds b ↔ b ∈ g.succs a
  nodup_succs : ∀ i, (g.succs i).Nodup
  nodup_preds : ∀ i, (g.preds i).Nodup
  preds_entry : g.preds entry = []
  succs_exit : g.succs exit = []
  events_exit : g.events exit = []
  preds_eq_nil_iff : ∀ i < g.blocks.length, i ≠ entry →
    (g.preds i = [] ↔ g.kind? i = some .unreachable)
  entry_reaches_exit : g.Reaches entry exit
  reaches_exit : ∀ i, g.Reaches entry i → g.Reaches i exit
  number_lt : ∀ b, ∀ e ∈ g.events b, ∀ i, e.definition = some i → i < g.definitions.length
  count_definition : ∀ i < g.definitions.length,
    (g.blocks.flatMap Block.events).countP (fun e => e.definition == some i) = 1
  definition_of_event : ∀ b, ∀ e ∈ g.events b, ∀ i d, e.definition = some i →
    g.definitions[i]? = some d → b = d.block ∧ e.spot = d.spot

end Graph

/-- The flow graph of every routine is well shaped, and its events without a definition are the reads of the text. -/
theorem wellShaped_ofRoutine (m : Option Module) (r : Routine) :
    (Graph.ofRoutine m r).WellShaped
    ∧ (Graph.ofRoutine m r).useSpots = spotsWhere (· == none) (r.script m) := by
  refine ⟨?_, useSpots_ofRoutine m r⟩
  have htidy := tidy_finalBuilder m r
  have hwf := htidy.neat.wellFormed
  have hreaches : ∀ i, (Graph.ofRoutine m r).Reaches Graph.entry i →
      (Graph.ofRoutine m r).Reaches i Graph.exit := fun i hi =>
    reaches_exit m r ((Graph.wellFormed_ofRoutine m r).lt_of_reaches hi)
  have hnumber : ∀ b, ∀ e ∈ (Graph.ofRoutine m r).events b, ∀ i, e.definition = some i →
      i < (Graph.ofRoutine m r).definitions.length := by
    intro b e he i hi
    obtain ⟨x, hx, -⟩ := (Graph.wellFormed_ofRoutine m r).definition_of_event b e he i hi
    exact (List.getElem?_eq_some_iff.mp hx).1
  have hcount := fun i => count_definition_events m r (i := i)
  have hagrees : ∀ b, ∀ e ∈ (Graph.ofRoutine m r).events b, ∀ i d, e.definition = some i →
      (Graph.ofRoutine m r).definitions[i]? = some d → b = d.block ∧ e.spot = d.spot :=
    fun b e he i d => definition_of_mem_events he
  rw [ofRoutine_eq] at hreaches hnumber hcount hagrees ⊢
  exact {
    kind_entry_iff := htidy.neat.kind_entry_iff
    kind_exit_iff := htidy.neat.kind_exit_iff
    lt_of_edge := by
      intro a b hb
      refine ⟨?_, hwf.succs_lt a b hb⟩
      by_contra hge
      rw [succs_of_size_le _ (Nat.le_of_not_lt hge)] at hb
      cases hb
    mem_preds_iff := hwf.mem_preds_iff
    nodup_succs := htidy.neat.nodup_succs
    nodup_preds := htidy.neat.nodup_preds
    preds_entry := htidy.neat.preds_entry
    succs_exit := hwf.succs_exit
    events_exit := hwf.events_exit
    preds_eq_nil_iff := by
      intro i hi hentry
      refine ⟨fun hnil => ?_, htidy.neat.preds_unreachable i⟩
      by_contra hkind
      have hexit : i ≠ Graph.exit := fun heq => preds_exit_ne_nil m r (heq ▸ hnil)
      exact htidy.connected i hi hentry hexit hkind hnil
    entry_reaches_exit := hreaches _ (.refl _ _)
    reaches_exit := hreaches
    number_lt := hnumber
    count_definition := hcount
    definition_of_event := hagrees }

end ModuleLint.Flow
