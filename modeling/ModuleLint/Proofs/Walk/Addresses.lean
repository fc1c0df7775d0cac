import Mathlib.Data.List.Forall2
import ModuleLint.Proofs.Walk.Observing

/-!
# Addresses of nodes

A node has slots for children, and some of them may be empty. An address tells which slot to take at each step down
from the root (`Node.at?`), so it names one occurrence of a node, and the nodes on the way to it are the node's ancestors
(`Node.path?`). An outline leaves the holes out, but it keeps the order: its nodes are those at all addresses of the
tree, each address once and in lexicographic order (`exists_enumerates`). In that order an address comes before those
that continue it, and below a node the slots come one after another.
-/

set_option autoImplicit false

namespace ModuleLint

/-! ## Slots -/

/-- The node in a slot for an expression. -/
def Expr.node? : Expr → Option Node
  | .hole _ => none
  | .reference r => some (.reference r)
  | .binary span operator left right => some (.binaryOperation span operator left right)
  | .literal l => some (.literal l)
  | .call span name arguments => some (.call { span := span, name := name, arguments := arguments })
  | .generic g => some (.expression g)

/-- The node in a slot for a statement. -/
def Stmt.node? : Stmt → Option Node
  | .hole _ => none
  | .declare d => some (.declaration d)
  | .assign a => some (.assignment a)
  | .branch span condition body alternatives otherwise =>
    some (.ifStatement span condition body alternatives otherwise)
  | .loopWhile span condition body => some (.whileLoop span condition body)
  | .loopFor span counter first last collection body =>
    some (.forLoop span counter first last collection body)
  | .leave span value => some (.returnStatement span value)
  | .call c => some (.call c)
  | .generic g => some (.expression g)

/-- The slots of a further condition and its block. -/
def Alternative.slots : Alternative → List (Option Node)
  | .mk condition body => condition.node? :: body.map Stmt.node?

/-- The slots of a routine: parameters, then the body. -/
def Routine.slots (r : Routine) : List (Option Node) :=
  r.parameters.map (Option.map .parameter) ++ r.body.map Stmt.node?

namespace Node

/-- The slots for the children of a node, in order. -/
def slots : Node → List (Option Node)
  | module m =>
    m.declarations.map (Option.map declaration) ++ m.functions.map (Option.map function)
      ++ m.procedures.map (Option.map procedure)
  | function r => r.slots
  | procedure r => r.slots
  | parameter _ => []
  | declaration _ => []
  | reference _ => []
  | assignment a => [a.target.map reference, a.value.node?]
  | ifStatement _ condition body alternatives otherwise =>
    condition.node? :: body.map Stmt.node? ++ alternatives.flatMap Alternative.slots
      ++ otherwise.map Stmt.node?
  | whileLoop _ condition body => condition.node? :: body.map Stmt.node?
  | forLoop _ counter first last collection body =>
    [counter.map reference, first.node?, last.node?, collection.node?] ++ body.map Stmt.node?
  | returnStatement _ value => [value.node?]
  | binaryOperation _ _ left right => [left.node?, right.node?]
  | literal _ => []
  | call c => c.arguments.map Expr.node?
  | expression _ => []

/-- The child in a slot, if there is such a slot and it is filled. -/
def child? (n : Node) (i : Nat) : Option Node := n.slots[i]?.join

/-- The node at an address. -/
def at? : Node → List Nat → Option Node
  | n, [] => some n
  | n, i :: address => (n.child? i).bind fun c => c.at? address

/-- The nodes from the root down to an address. -/
def path? : Node → List Nat → Option (List Node)
  | n, [] => some [n]
  | n, i :: address => (n.child? i).bind fun c => (c.path? address).map (n :: ·)

/-- The node at an address is the last one on the path to it. -/
theorem at?_eq_path? (n : Node) (address : List Nat) :
    n.at? address = (n.path? address).bind List.getLast? := by
  induction address generalizing n with
  | nil => rfl
  | cons i address ih =>
    unfold at? path?
    cases n.child? i with
    | none => rfl
    | some c =>
      rw [Option.bind_some, Option.bind_some, ih c]
      cases hpath : c.path? address with
      | none => rfl
      | some path =>
        -- a path ends with its last node, whatever stands before
        have hne : path ≠ [] := by
          cases address with
          | nil => cases hpath; simp
          | cons j rest =>
            unfold path? at hpath
            obtain ⟨d, -, hd⟩ := Option.bind_eq_some_iff.mp hpath
            obtain ⟨below, -, rfl⟩ := Option.map_eq_some_iff.mp hd
            simp
        rw [Option.bind_some, Option.map_some, Option.bind_some, List.getLast?_cons,
          List.getLast?_eq_some_getLast hne, Option.getD_some]

/-- The outline of a tree, from the node at its top. -/
def outline : Node → Outline
  | module m => m.outline
  | function r => r.functionOutline
  | procedure r => r.procedureOutline
  | parameter p => .node (.parameter p) []
  | declaration d => .node (.declaration d) []
  | reference r => r.outline
  | assignment a => .node (.assignment a) (outlineOfTarget a.target ++ a.value.outline)
  | ifStatement span condition body alternatives otherwise =>
    .node (.ifStatement span condition body alternatives otherwise)
      (condition.outline ++ outlineOfStmts body ++ outlineOfAlternatives alternatives
        ++ outlineOfStmts otherwise)
  | whileLoop span condition body =>
    .node (.whileLoop span condition body) (condition.outline ++ outlineOfStmts body)
  | forLoop span counter first last collection body =>
    .node (.forLoop span counter first last collection body)
      (outlineOfTarget counter ++ first.outline ++ last.outline ++ collection.outline
        ++ outlineOfStmts body)
  | returnStatement span value => .node (.returnStatement span value) value.outline
  | binaryOperation span operator left right =>
    .node (.binaryOperation span operator left right) (left.outline ++ right.outline)
  | literal l => .node (.literal l) []
  | call c => .node (.call c) (outlineOfExprs c.arguments)
  | expression g => .node (.expression g) []

end Node

/-! ## Outlines fill in the slots that are not empty -/

/-- The outlines of the nodes in some slots. -/
def outlineOfSlots (slots : List (Option Node)) : List Outline :=
  slots.filterMap (Option.map Node.outline)

/-- Slots are filled in from left to right. -/
theorem outlineOfSlots_append (xs ys : List (Option Node)) :
    outlineOfSlots (xs ++ ys) = outlineOfSlots xs ++ outlineOfSlots ys :=
  List.filterMap_append

/-- The first slot is filled in before the others. -/
theorem outlineOfSlots_cons (x : Option Node) (rest : List (Option Node)) :
    outlineOfSlots (x :: rest) = outlineOfSlots [x] ++ outlineOfSlots rest :=
  outlineOfSlots_append [x] rest

/-- A slot for an expression has the outline of the expression, if there is one. -/
theorem Expr.outlineOfSlots_node? (e : Expr) : outlineOfSlots [e.node?] = e.outline := by
  cases e <;> simp [outlineOfSlots, Expr.node?, Expr.outline, Node.outline]

/-- A slot for a statement has the outline of the statement, if there is one. -/
theorem Stmt.outlineOfSlots_node? (s : Stmt) : outlineOfSlots [s.node?] = s.outline := by
  cases s <;> simp [outlineOfSlots, Stmt.node?, Stmt.outline, Node.outline]

/-- A slot for a target has the outline of the target, if there is one. -/
theorem outlineOfSlots_target (target : Option Reference) :
    outlineOfSlots [target.map .reference] = outlineOfTarget target := by
  cases target <;> rfl

/-- Slots for expressions have their outlines one after another. -/
theorem outlineOfSlots_exprs (es : List Expr) :
    outlineOfSlots (es.map Expr.node?) = outlineOfExprs es := by
  induction es with
  | nil => rfl
  | cons e rest ih =>
    rw [List.map_cons, outlineOfSlots_cons, Expr.outlineOfSlots_node?, ih, outlineOfExprs]

/-- Slots for statements have their outlines one after another. -/
theorem outlineOfSlots_stmts (ss : List Stmt) :
    outlineOfSlots (ss.map Stmt.node?) = outlineOfStmts ss := by
  induction ss with
  | nil => rfl
  | cons s rest ih =>
    rw [List.map_cons, outlineOfSlots_cons, Stmt.outlineOfSlots_node?, ih, outlineOfStmts]

/-- Slots for further conditions and their blocks have their outlines one after another. -/
theorem outlineOfSlots_alternatives (alternatives : List Alternative) :
    outlineOfSlots (alternatives.flatMap Alternative.slots) = outlineOfAlternatives alternatives := by
  induction alternatives with
  | nil => rfl
  | cons alternative rest ih =>
    obtain ⟨condition, body⟩ := alternative
    rw [List.flatMap_cons, outlineOfSlots_append, ih, Alternative.slots, outlineOfSlots_cons,
      Expr.outlineOfSlots_node?, outlineOfSlots_stmts, outlineOfAlternatives, Alternative.outline]

/-- Slots whose nodes are made in one way have the outlines of these nodes. -/
theorem outlineOfSlots_map {α : Type} (node : α → Node) (xs : List (Option α)) :
    outlineOfSlots (xs.map (Option.map node)) = xs.filterMap fun x => x.map fun x => (node x).outline := by
  unfold outlineOfSlots
  rw [List.filterMap_map]
  congr 1
  funext x
  cases x <;> rfl

/-- The slots of a routine have the outlines of its children. -/
theorem Routine.outlineOfSlots_slots (r : Routine) : outlineOfSlots r.slots = r.children := by
  rw [Routine.slots, outlineOfSlots_append, outlineOfSlots_map, outlineOfSlots_stmts]
  rfl

/-- An outline has the outlines of the filled slots below its node, in order. -/
theorem Node.outline_eq (n : Node) : n.outline = .node n (outlineOfSlots n.slots) := by
  cases n with
  | module m =>
    rw [slots, outlineOfSlots_append, outlineOfSlots_append, outlineOfSlots_map, outlineOfSlots_map,
      outlineOfSlots_map]
    rfl
  | function r =>
    rw [slots, r.outlineOfSlots_slots]
    rfl
  | procedure r =>
    rw [slots, r.outlineOfSlots_slots]
    rfl
  | assignment a =>
    rw [slots, outlineOfSlots_cons, outlineOfSlots_target, Expr.outlineOfSlots_node?]
    rfl
  | ifStatement span condition body alternatives otherwise =>
    rw [slots, List.cons_append, List.cons_append, outlineOfSlots_cons, outlineOfSlots_append,
      outlineOfSlots_append, Expr.outlineOfSlots_node?, outlineOfSlots_stmts,
      outlineOfSlots_alternatives, outlineOfSlots_stmts, outline, List.append_assoc,
      List.append_assoc, List.append_assoc]
  | whileLoop span condition body =>
    rw [slots, outlineOfSlots_cons, Expr.outlineOfSlots_node?, outlineOfSlots_stmts]
    rfl
  | forLoop span counter first last collection body =>
    rw [slots, outlineOfSlots_append, outlineOfSlots_cons, outlineOfSlots_cons first.node?,
      outlineOfSlots_cons last.node?, outlineOfSlots_target, Expr.outlineOfSlots_node?,
      Expr.outlineOfSlots_node?, Expr.outlineOfSlots_node?, outlineOfSlots_stmts, outline,
      List.append_assoc, List.append_assoc, List.append_assoc, List.append_assoc,
      List.append_assoc, List.append_assoc]
  | returnStatement span value =>
    rw [slots, Expr.outlineOfSlots_node?]
    rfl
  | binaryOperation span operator left right =>
    rw [slots, outlineOfSlots_cons, Expr.outlineOfSlots_node?, Expr.outlineOfSlots_node?]
    rfl
  | call c =>
    rw [slots, outlineOfSlots_exprs]
    rfl
  | _ => rfl

/-- The trees below a node are smaller, so what holds of all smaller trees holds of all trees. -/
theorem Node.induction_on_slots {P : Node → Prop}
    (step : ∀ n : Node, (∀ c, some c ∈ n.slots → P c) → P n) (n : Node) : P n := by
  induction hsize : sizeOf n.outline using Nat.strongRecOn generalizing n with
  | ind size ih =>
    apply step
    intro c hc
    refine ih (sizeOf c.outline) ?_ c rfl
    have hmem : c.outline ∈ outlineOfSlots n.slots :=
      List.mem_filterMap.mpr ⟨some c, hc, rfl⟩
    have hlt := List.sizeOf_lt_of_mem hmem
    rw [← hsize, n.outline_eq, Outline.node.sizeOf_spec]
    omega

/-! ## Lineages -/

mutual

/-- For each node of an outline, in order, the nodes from the top down to it. -/
def Outline.lineages : Outline → List (List Node)
  | .node n children => [n] :: (lineagesOfAll children).map (n :: ·)

/-- The lineages of several outlines, one after another. -/
def lineagesOfAll : List Outline → List (List Node)
  | [] => []
  | o :: rest => o.lineages ++ lineagesOfAll rest

end

mutual

/-- A lineage ends with the node it belongs to. -/
theorem map_getLast?_lineages : ∀ o : Outline, o.lineages.map List.getLast? = o.nodes.map some
  | .node n children => by
    have hbelow := map_getLast?_lineagesOfAll children
    have hne : ∀ line ∈ lineagesOfAll children, (n :: line).getLast? = line.getLast? := by
      intro line hline
      obtain ⟨x, -, hx⟩ := List.mem_map.mp (hbelow ▸ List.mem_map_of_mem hline)
      rw [List.getLast?_cons, ← hx, Option.getD_some]
    rw [Outline.lineages, Outline.nodes, List.map_cons, List.map_cons, List.map_map, ← hbelow]
    exact congrArg _ (List.map_congr_left hne)

/-- The lineages of trees side by side end with the nodes they belong to. -/
theorem map_getLast?_lineagesOfAll : ∀ os : List Outline,
    (lineagesOfAll os).map List.getLast? = (nodesOfAll os).map some
  | [] => rfl
  | o :: rest => by
    rw [lineagesOfAll, nodesOfAll, List.map_append, List.map_append, map_getLast?_lineages o,
      map_getLast?_lineagesOfAll rest]

end

/-- The addresses are those at which there is something, in lexicographic order, and what is found there is
listed. -/
structure Enumerates {α : Type} (find : List Nat → Option α) (addresses : List (List Nat)) (found : List α) :
    Prop where
  sorted : addresses.Pairwise (· < ·)
  mem_iff : ∀ address, address ∈ addresses ↔ (find address).isSome
  map_eq : addresses.map find = found.map some

/-- What is found below some slots, if these have numbers from `first` on. -/
def pathBelow? (slots : List (Option Node)) (first : Nat) : List Nat → Option (List Node)
  | [] => none
  | i :: address => if first ≤ i then slots[i - first]?.join.bind fun c => c.path? address else none

/-- An address with another first number leads past a slot. -/
theorem pathBelow?_cons_of_ne (slot : Option Node) (rest : List (Option Node)) {first i : Nat}
    (hne : i ≠ first) (address : List Nat) :
    pathBelow? (slot :: rest) first (i :: address) = pathBelow? rest (first + 1) (i :: address) := by
  rw [pathBelow?, pathBelow?]
  by_cases hle : first ≤ i
  · rw [if_pos hle, if_pos (by omega), show i - first = (i - (first + 1)) + 1 by omega,
      List.getElem?_cons_succ]
  · rw [if_neg hle, if_neg (by omega)]

/-- An address with the number of a slot leads into it. -/
theorem pathBelow?_cons_self (slot : Option Node) (rest : List (Option Node)) (first : Nat)
    (address : List Nat) :
    pathBelow? (slot :: rest) first (first :: address) = slot.bind fun c => c.path? address := by
  rw [pathBelow?, if_pos (Nat.le_refl first), Nat.sub_self]
  rfl

/-- Nothing is found in an empty slot. -/
theorem pathBelow?_none_cons (rest : List (Option Node)) (first : Nat) :
    pathBelow? (none :: rest) first = pathBelow? rest (first + 1) := by
  funext address
  cases address with
  | nil => rfl
  | cons i address =>
    by_cases heq : i = first
    · subst heq
      rw [pathBelow?_cons_self, pathBelow?, if_neg (by omega)]
      rfl
    · exact pathBelow?_cons_of_ne none rest heq address

/-- Addresses below later slots start with larger numbers. -/
theorem exists_eq_cons_of_pathBelow? {slots : List (Option Node)} {first : Nat} {address : List Nat}
    (h : (pathBelow? slots first address).isSome) : ∃ i rest, address = i :: rest ∧ first ≤ i := by
  cases address with
  | nil => cases h
  | cons i rest =>
    refine ⟨i, rest, rfl, ?_⟩
    by_contra hlt
    rw [pathBelow?, if_neg hlt] at h
    cases h

/-- The addresses below a filled slot come before those below the slots after it. -/
theorem Enumerates.some_cons {c : Node} {rest : List (Option Node)} {first : Nat}
    {here below : List (List Nat)} {foundHere foundBelow : List (List Node)}
    (hhere : Enumerates c.path? here foundHere)
    (hbelow : Enumerates (pathBelow? rest (first + 1)) below foundBelow) :
    Enumerates (pathBelow? (some c :: rest) first) (here.map (first :: ·) ++ below)
      (foundHere ++ foundBelow) := by
  have hlater : ∀ address ∈ below, ∃ i tail, address = i :: tail ∧ first + 1 ≤ i := fun address h =>
    exists_eq_cons_of_pathBelow? ((hbelow.mem_iff address).mp h)
  refine ⟨?_, ?_, ?_⟩
  · rw [List.pairwise_append, List.pairwise_map]
    refine ⟨hhere.sorted.imp fun h => List.cons_lt_cons_iff.mpr (.inr ⟨rfl, h⟩), hbelow.sorted, ?_⟩
    intro a ha b hb
    obtain ⟨tail, -, rfl⟩ := List.mem_map.mp ha
    obtain ⟨i, tail', rfl, hi⟩ := hlater b hb
    exact List.cons_lt_cons_iff.mpr (.inl (by omega))
  · intro address
    rw [List.mem_append, List.mem_map]
    constructor
    · rintro (⟨tail, htail, rfl⟩ | hmem)
      · rw [pathBelow?_cons_self]
        exact (hhere.mem_iff tail).mp htail
      · obtain ⟨i, tail, rfl, hi⟩ := hlater address hmem
        rw [pathBelow?_cons_of_ne (some c) rest (by omega)]
        exact (hbelow.mem_iff _).mp hmem
    · intro h
      obtain ⟨i, tail, rfl, hi⟩ := exists_eq_cons_of_pathBelow? h
      by_cases heq : i = first
      · subst heq
        rw [pathBelow?_cons_self] at h
        exact .inl ⟨tail, (hhere.mem_iff tail).mpr h, rfl⟩
      · rw [pathBelow?_cons_of_ne (some c) rest heq] at h
        exact .inr ((hbelow.mem_iff _).mpr h)
  · rw [List.map_append, List.map_append, List.map_map, ← hhere.map_eq, ← hbelow.map_eq]
    congr 1
    · exact List.map_congr_left fun tail _ => pathBelow?_cons_self (some c) rest first tail
    · apply List.map_congr_left
      intro address hmem
      obtain ⟨i, tail, rfl, hi⟩ := hlater address hmem
      exact pathBelow?_cons_of_ne (some c) rest (by omega) tail

/-- The addresses below all slots can be enumerated, by induction over the slots. -/
theorem exists_enumerates_below (slots : List (Option Node)) (first : Nat)
    (h : ∀ c, some c ∈ slots → ∃ addresses, Enumerates c.path? addresses c.outline.lineages) :
    ∃ addresses, Enumerates (pathBelow? slots first) addresses (lineagesOfAll (outlineOfSlots slots)) := by
  induction slots generalizing first with
  | nil =>
    refine ⟨[], List.Pairwise.nil, fun address => ?_, rfl⟩
    cases address <;> simp [pathBelow?]
  | cons slot rest ih =>
    obtain ⟨below, hbelow⟩ := ih (first + 1) fun c hc => h c (List.mem_cons_of_mem slot hc)
    cases slot with
    | none =>
      refine ⟨below, ?_⟩
      rw [pathBelow?_none_cons]
      exact hbelow
    | some c =>
      obtain ⟨here, hhere⟩ := h c List.mem_cons_self
      refine ⟨here.map (first :: ·) ++ below, ?_⟩
      exact hhere.some_cons hbelow

/-- The empty address of the top comes before all others. -/
theorem Enumerates.node {n : Node} {below : List (List Nat)} {found : List (List Node)}
    (h : Enumerates (pathBelow? n.slots 0) below found) :
    Enumerates n.path? ([] :: below) ([n] :: found.map (n :: ·)) := by
  have hpath : ∀ address ≠ [], n.path? address = (pathBelow? n.slots 0 address).map (n :: ·) := by
    intro address hne
    cases address with
    | nil => exact absurd rfl hne
    | cons i address =>
      show (n.child? i).bind (fun c => (c.path? address).map (n :: ·)) = _
      rw [pathBelow?, if_pos (Nat.zero_le i), Nat.sub_zero, Node.child?]
      cases n.slots[i]?.join <;> rfl
  have hne : ∀ address ∈ below, address ≠ [] := by
    intro address hmem
    obtain ⟨i, tail, rfl, -⟩ := exists_eq_cons_of_pathBelow? ((h.mem_iff address).mp hmem)
    exact List.cons_ne_nil i tail
  refine ⟨?_, ?_, ?_⟩
  · rw [List.pairwise_cons]
    refine ⟨fun address hmem => ?_, h.sorted⟩
    obtain ⟨i, tail, rfl, -⟩ := exists_eq_cons_of_pathBelow? ((h.mem_iff address).mp hmem)
    exact List.nil_lt_cons i tail
  · intro address
    rw [List.mem_cons]
    by_cases hnil : address = []
    · subst hnil
      exact iff_of_true (.inl rfl) rfl
    · rw [hpath address hnil, Option.isSome_map, ← h.mem_iff address]
      exact ⟨fun hmem => hmem.resolve_left hnil, .inr⟩
  · rw [List.map_cons, List.map_cons, List.map_map]
    congr 1
    calc below.map n.path?
        = below.map fun address => (pathBelow? n.slots 0 address).map (n :: ·) :=
          List.map_congr_left fun address hmem => hpath address (hne address hmem)
      _ = (below.map (pathBelow? n.slots 0)).map (Option.map (n :: ·)) := by rw [List.map_map]; rfl
      _ = found.map (some ∘ (n :: ·)) := by rw [h.map_eq, List.map_map]; rfl

/-- The lineages of an outline are the paths to all addresses of the tree. -/
theorem exists_enumerates (root : Node) :
    ∃ addresses, Enumerates root.path? addresses root.outline.lineages := by
  induction root using Node.induction_on_slots with
  | step n ih =>
    obtain ⟨below, hbelow⟩ := exists_enumerates_below n.slots 0 ih
    rw [n.outline_eq]
    exact ⟨[] :: below, hbelow.node⟩

/-- There is a node at an address when there is a path to it. -/
theorem Node.isSome_at? (n : Node) (address : List Nat) :
    (n.at? address).isSome = (n.path? address).isSome := by
  induction address generalizing n with
  | nil => rfl
  | cons i address ih =>
    unfold at? path?
    cases n.child? i with
    | none => rfl
    | some c => rw [Option.bind_some, Option.bind_some, Option.isSome_map, ih c]

/-- The nodes of an outline are those at all addresses of the tree. -/
theorem exists_enumerates_nodes (root : Node) :
    ∃ addresses, Enumerates root.at? addresses root.outline.nodes := by
  obtain ⟨addresses, h⟩ := exists_enumerates root
  refine ⟨addresses, h.sorted, fun address => ?_, ?_⟩
  · rw [root.isSome_at?, h.mem_iff]
  · calc addresses.map root.at?
        = (addresses.map root.path?).map fun path => path.bind List.getLast? := by
          rw [List.map_map]
          exact List.map_congr_left fun address _ => root.at?_eq_path? address
      _ = root.outline.lineages.map List.getLast? := by
          rw [h.map_eq, List.map_map]
          rfl
      _ = root.outline.nodes.map some := map_getLast?_lineages root.outline

end ModuleLint
