import ModuleLint.Proofs.Facts.RoutineNotes
import ModuleLint.Proofs.Flow.ModuleFindings

/-!
# Looking up routines by their nodes

Beside the list of what is known of each routine there is an index by nodes, for the facts about routines and for their
data flow. The index of the facts holds places of the list. It always tells the last place of a node (`Indexed`), since
what is known of a routine changes at its place and only a routine that is declared gets a new one. So a lookup gives
the last entry of the list with the given node (`Indexed.lookup?_eq`), and the same holds for the results of the data
flow (`Findings.Indexed`).

After the walk of a module its routines are found and no others (`Notes.lookup?_eq`). In a tree of its own each routine
has a node of its own, and so each of them is found while nodes of earlier trees lead nowhere (`lookup?_renumber`).
-/

set_option autoImplicit false

namespace ModuleLint

/-! ## Places -/

/-- The last place at which a node stands. -/
def lastPlace? (nodes : List RoutineNode) (node : RoutineNode) : Option Nat :=
  (nodes.zipIdx.filter fun x => x.1 == node).getLast?.map (·.2)

/-- A node that is put at the end stands there last; the others stay where they are. -/
theorem lastPlace?_concat (nodes : List RoutineNode) (last node : RoutineNode) :
    lastPlace? (nodes ++ [last]) node = if node = last then some nodes.length else lastPlace? nodes node := by
  have hzip : (nodes ++ [last]).zipIdx = nodes.zipIdx ++ [(last, nodes.length)] := by
    rw [List.zipIdx_append, List.zipIdx_singleton, Nat.zero_add]
  unfold lastPlace?
  rw [hzip, List.filter_append, List.getLast?_append]
  by_cases hnode : node = last
  · simp [hnode]
  · simp [hnode, Ne.symm hnode]

/-- At the last place of a node stands the last entry that has it. -/
theorem getElem?_lastPlace? {α : Type} (nodeOf : α → RoutineNode) (xs : List α) (node : RoutineNode) :
    (lastPlace? (xs.map nodeOf) node).bind (fun place => xs[place]?)
      = (xs.filter fun x => nodeOf x == node).getLast? := by
  have hplaces : ((xs.map nodeOf).zipIdx.filter fun x => x.1 == node)
      = (xs.zipIdx.filter fun x => nodeOf x.1 == node).map (Prod.map nodeOf id) := by
    rw [List.zipIdx_map, List.filter_map]
    rfl
  have hentries : xs.filter (fun x => nodeOf x == node)
      = (xs.zipIdx.filter fun x => nodeOf x.1 == node).map (·.1) := by
    conv_lhs => rw [← List.zipIdx_map_fst 0 xs, List.filter_map]
    rfl
  unfold lastPlace?
  rw [hplaces, hentries, List.getLast?_map, List.getLast?_map]
  cases hlast : (xs.zipIdx.filter fun x => nodeOf x.1 == node).getLast? with
  | none => rfl
  | some x =>
    have hmem : x ∈ xs.zipIdx := (List.mem_filter.mp (List.mem_of_getLast? hlast)).1
    exact List.mk_mem_zipIdx_iff_getElem?.mp hmem

/-! ## Facts about routines -/

namespace RoutineFacts

/-- The index tells for each node the last place at which its facts stand. -/
def Indexed (facts : RoutineFacts) : Prop :=
  ∀ node, facts.byNode.get? node = lastPlace? (facts.routines.map RoutineFact.node) node

variable {facts : RoutineFacts}

/-- Where nothing is known, nothing is found. -/
theorem indexed_empty : Indexed empty := fun _ => rfl

/-- A routine that is declared is found at the end. -/
theorem Indexed.declare (h : Indexed facts) (kind : RoutineKind) (r : Routine) : Indexed (facts.declare kind r) := by
  intro node
  unfold RoutineFacts.declare
  rw [Dictionary.get?_put, List.map_append, List.map_singleton, lastPlace?_concat, List.length_map, h node]
  rfl

/-- What is known of a routine may change as long as the routine stays the same. -/
theorem Indexed.updateCurrent (h : Indexed facts) (c : Context) {f : RoutineFact → RoutineFact}
    (hf : ∀ fact, (f fact).node = fact.node) : Indexed (facts.updateCurrent c f) := by
  unfold RoutineFacts.updateCurrent
  cases facts.currentPlace? c with
  | none => exact h
  | some place =>
    have hnodes : (facts.routines.modify place f).map RoutineFact.node = facts.routines.map RoutineFact.node := by
      apply List.ext_getElem?
      intro i
      rw [List.getElem?_map, List.getElem?_map, List.getElem?_modify]
      cases facts.routines[i]? with
      | none => rfl
      | some fact => split <;> simp [hf]
    intro node
    exact (h node).trans (congrArg (lastPlace? · node) hnodes.symm)

/-- A call is noted down with a routine that is known already. -/
theorem Indexed.addCall (h : Indexed facts) (c : Context) (callee : String) : Indexed (facts.addCall c callee) := by
  unfold RoutineFacts.addCall
  split
  · split
    · exact h
    · have hgraph : ∀ graph : CallGraph, Indexed { facts with graph := graph } := fun _ => h
      dsimp only
      split
      · exact (hgraph _).updateCurrent c fun _ => rfl
      · exact hgraph _
  · exact h

/-- No node breaks the index. -/
theorem Indexed.observe (h : Indexed facts) (n : Node) (c : Context) : Indexed (observe n c facts) := by
  cases n with
  | module m => exact indexed_empty
  | function r => exact h.declare .function r
  | procedure r => exact h.declare .procedure r
  | parameter p => exact h.updateCurrent c fun _ => rfl
  | returnStatement span value => exact h.updateCurrent c fun _ => rfl
  | call call => exact h.addCall c call.name
  | _ => exact h

/-- A lookup gives the last facts with the given node. -/
theorem Indexed.lookup?_eq (h : Indexed facts) (node : RoutineNode) :
    facts.lookup? node = (facts.routines.filter fun f => f.node == node).getLast? := by
  unfold lookup?
  rw [h node]
  exact getElem?_lastPlace? RoutineFact.node facts.routines node

/-- Each routine is noted down with its kind and its declaration. -/
theorem map_noted (before : List (String × String)) (rs : List (RoutineKind × Routine)) :
    (noted before rs).map (fun f => (f.kind, f.declaration)) = rs := by
  induction rs generalizing before with
  | nil => rfl
  | cons x rest ih =>
    rw [noted, List.map_cons, ih]
    rfl

/-- A node leads to the last of the given routines that has it, and nowhere if none of them has. -/
theorem Notes.lookup?_eq {rs : List (RoutineKind × Routine)} (hnotes : Notes rs facts) (h : Indexed facts)
    (node : RoutineNode) :
    (facts.lookup? node).map (fun f => (f.kind, f.declaration))
      = (rs.filter fun x => x.2.node x.1 == node).getLast? := by
  rw [h.lookup?_eq, ← List.getLast?_map, hnotes.routines]
  conv_rhs => rw [← map_noted [] rs, List.filter_map]
  rfl

/-- Where the nodes differ, each of the given routines is found by its own node. -/
theorem Notes.lookup?_of_nodup {rs : List (RoutineKind × Routine)} (hnotes : Notes rs facts) (h : Indexed facts)
    (hnodup : (rs.map fun x => x.2.node x.1).Nodup) {x : RoutineKind × Routine} (hx : x ∈ rs) :
    (facts.lookup? (x.2.node x.1)).map (fun f => (f.kind, f.declaration)) = some x := by
  have honly : rs.filter (fun y => y.2.node y.1 == x.2.node x.1) = [x] := by
    obtain ⟨front, back, rfl⟩ := List.append_of_mem hx
    rw [List.map_append, List.map_cons, List.nodup_append, List.nodup_cons] at hnodup
    obtain ⟨-, ⟨hback, -⟩, hfront⟩ := hnodup
    have hnone : ∀ ys : List (RoutineKind × Routine), (∀ y ∈ ys, y.2.node y.1 ≠ x.2.node x.1) →
        ys.filter (fun y => y.2.node y.1 == x.2.node x.1) = [] := by
      intro ys hys
      rw [List.filter_eq_nil_iff]
      exact fun y hy => mt beq_iff_eq.mp (hys y hy)
    have hbefore := hnone front fun y hy => hfront _ (List.mem_map_of_mem hy) _ List.mem_cons_self
    have hafter := hnone back fun y hy heq => hback (List.mem_map.mpr ⟨y, hy, heq⟩)
    rw [List.filter_append, List.filter_cons, if_pos (beq_self_eq_true _), hbefore, hafter]
    rfl
  rw [hnotes.lookup?_eq h, honly]
  rfl

end RoutineFacts

/-! ## Trees of their own -/

/-- Numbers that are given one after another grow. -/
theorem pairwise_numbered (slots : List (Option Routine)) (first : Nat) :
    let rs := (slots.mapIdx fun i slot => slot.map fun r => { r with number := first + i }).filterMap id
    (∀ r ∈ rs, first ≤ r.number) ∧ rs.Pairwise fun r r' => r.number < r'.number := by
  induction slots generalizing first with
  | nil => exact ⟨fun _ hr => absurd hr List.not_mem_nil, .nil⟩
  | cons slot rest ih =>
    have hshift : (fun i (slot : Option Routine) => slot.map fun r => { r with number := first + (i + 1) })
        = fun i slot => slot.map fun r => { r with number := first + 1 + i } := by
      funext i slot
      rw [Nat.add_assoc, Nat.add_comm 1 i]
    obtain ⟨hle, hgrow⟩ := ih (first + 1)
    rw [List.mapIdx_cons, hshift]
    cases slot with
    | none => exact ⟨fun r hr => Nat.le_of_succ_le (hle r hr), hgrow⟩
    | some r =>
      refine ⟨?_, List.pairwise_cons.mpr ⟨fun r' hr' => hle r' hr', hgrow⟩⟩
      intro r' hr'
      rcases List.mem_cons.mp hr' with rfl | hr'
      · exact Nat.le_refl _
      · exact Nat.le_of_succ_le (hle r' hr')

/-- In a tree of its own each routine has a node of its own, from the given number on. -/
theorem nodup_nodes_renumber (m : Module) (first : Nat) :
    (∀ x ∈ (m.renumber first).routines, first ≤ x.2.number)
      ∧ ((m.renumber first).routines.map fun x => x.2.node x.1).Nodup := by
  obtain ⟨hfunctions, hgrow⟩ := pairwise_numbered m.functions first
  obtain ⟨hprocedures, hgrow'⟩ := pairwise_numbered m.procedures first
  have hnodup : ∀ (kind : RoutineKind) {rs : List Routine}, (rs.Pairwise fun r r' => r.number < r'.number) →
      (rs.map fun r => r.node kind).Nodup := by
    intro kind rs hrs
    rw [List.Nodup, List.pairwise_map]
    exact hrs.imp fun hlt heq => Nat.ne_of_lt hlt (congrArg RoutineNode.number heq)
  unfold Module.routines
  constructor
  · intro x hx
    rcases List.mem_append.mp hx with hx | hx
    · obtain ⟨r, hr, rfl⟩ := List.mem_map.mp hx
      exact hfunctions r hr
    · obtain ⟨r, hr, rfl⟩ := List.mem_map.mp hx
      exact hprocedures r hr
  · rw [List.map_append, List.map_map, List.map_map, List.nodup_append]
    refine ⟨hnodup .function hgrow, hnodup .procedure hgrow', ?_⟩
    -- a function and a procedure differ by their kinds
    intro node hnode node' hnode' heq
    obtain ⟨r, -, rfl⟩ := List.mem_map.mp hnode
    obtain ⟨r', -, rfl⟩ := List.mem_map.mp hnode'
    cases congrArg RoutineNode.kind heq

/-- After the walk of a tree of its own all its routines are found, and nodes of trees with smaller numbers lead
nowhere. -/
theorem RoutineFacts.lookup?_renumber {facts : RoutineFacts} {m : Module} {first : Nat}
    (hnotes : Notes (m.renumber first).routines facts) (h : Indexed facts) :
    (∀ x ∈ (m.renumber first).routines,
        (facts.lookup? (x.2.node x.1)).map (fun f => (f.kind, f.declaration)) = some x)
      ∧ ∀ node : RoutineNode, node.number < first → facts.lookup? node = none := by
  obtain ⟨hle, hnodup⟩ := nodup_nodes_renumber m first
  refine ⟨fun x hx => hnotes.lookup?_of_nodup h hnodup hx, fun node hlt => ?_⟩
  have hnone : (m.renumber first).routines.filter (fun x => x.2.node x.1 == node) = [] := by
    rw [List.filter_eq_nil_iff]
    intro x hx heq
    rw [← beq_iff_eq.mp heq] at hlt
    exact absurd (hle x hx) (Nat.not_le_of_lt hlt)
  have hlookup := hnotes.lookup?_eq h node
  rw [hnone, List.getLast?_nil, Option.map_eq_none_iff] at hlookup
  exact hlookup

/-! ## Results of the data flow -/

/-- The result of a routine has its node. -/
theorem Flow.node_of_analyzeRoutine {budget : Nat} {m? : Option Module} {kind : RoutineKind} {r : Routine}
    {result : Result} (h : analyzeRoutine budget m? kind r = .ok result) : result.node = r.node kind := by
  unfold analyzeRoutine at h
  dsimp only at h
  split at h
  · rw [← Except.ok.inj h]
    rfl
  · cases h

namespace Flow.Findings

/-- The index holds for each node the last result with it. -/
def Indexed (f : Findings) : Prop :=
  ∀ node, f.result? node = (f.results.filter fun x => x.node == node).getLast?

variable {f : Findings}

/-- Where nothing is known, nothing is found. -/
theorem indexed_empty : Indexed empty := fun _ => rfl

/-- A result that is added is found from then on, and a failure adds none. -/
theorem Indexed.add (h : Indexed f) (budget : Nat) (kind : RoutineKind) (r : Routine) :
    Indexed (f.add budget kind r) := by
  unfold Findings.add
  cases hresult : analyzeRoutine budget f.module? kind r with
  | error e => exact h
  | ok result =>
    have hnode := node_of_analyzeRoutine hresult
    intro node
    have hold := h node
    unfold result? at hold ⊢
    rw [Dictionary.get?_put, List.filter_append, List.getLast?_append, hold]
    by_cases hsame : node = r.node kind
    · simp [hsame, hnode]
    · simp [hsame, hnode, Ne.symm hsame]

/-- No node breaks the index. -/
theorem Indexed.observe (h : Indexed f) (budget : Nat) (n : Node) : Indexed (f.observe budget n) := by
  cases n with
  | module m => exact indexed_empty
  | function r => exact h.add budget .function r
  | procedure r => exact h.add budget .procedure r
  | _ => exact h

end Flow.Findings

end ModuleLint
