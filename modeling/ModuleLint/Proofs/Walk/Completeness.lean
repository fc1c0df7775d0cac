import Mathlib.Data.List.Nodup
import ModuleLint.Proofs.Walk.Addresses
import ModuleLint.Proofs.Walk.Restoration

/-!
# Walks reach every node

A visitor has one method for each kind of node, and a node takes the method of its kind (`Visitor.accept`). A walker is
itself a visitor: its method for a kind calls the method of a hook and then sends the children back through the walker
(`traversal`). A walker that keeps a context replaces six of the fifteen methods, and the children must reach the
replaced ones (`contextual`). So a walker is a solution of an equation, and there is exactly one: it walks the outline
(`accept_eq_walkOutline`, `existsUnique_tied`).

Whatever the hook does short of a panic, the calls it receives are those for the nodes at all addresses of the tree, in
the order of the addresses and each through the method of the node's kind (`walk_visits_each_node_once`).
-/

set_option autoImplicit false

namespace ModuleLint

/-- A part of a walk. -/
abbrev Stretch (γ σ : Type) := γ → σ → Progress γ σ

namespace Stretch

variable {γ σ : Type}

/-- One part of a walk after another. -/
def seq (p q : Stretch γ σ) : Stretch γ σ := fun g s => (p g s).andThen q

/-- Nothing may come after a part. -/
theorem seq_idle (p : Stretch γ σ) : seq p Progress.idle = p := by
  funext g s
  show (p g s).andThen Progress.idle = p g s
  obtain ⟨_, _, panic⟩ := p g s
  cases panic <;> rfl

/-- Parts are put one after another in any grouping. -/
theorem seq_assoc (p q r : Stretch γ σ) : seq (seq p q) r = seq p (seq q r) := by
  funext g s
  unfold seq Progress.andThen
  cases hpanic : (p g s).panic with
  | some cause => simp only [hpanic]
  | none => rfl

end Stretch

/-- One method for each kind of node. -/
structure Visitor (α : Type) where
  module : Module → α
  function : Routine → α
  procedure : Routine → α
  parameter : Parameter → α
  declaration : Declaration → α
  reference : Reference → α
  assignment : Assignment → α
  ifStatement : Span → Expr → List Stmt → List Alternative → List Stmt → α
  whileLoop : Span → Expr → List Stmt → α
  forLoop : Span → Option Reference → Expr → Expr → Expr → List Stmt → α
  returnStatement : Span → Expr → α
  binaryOperation : Span → String → Expr → Expr → α
  literal : Literal → α
  call : Call → α
  expression : Generic → α

namespace Visitor

section Methods

variable {α : Type}

/-- A node takes the method of its kind. -/
def accept (v : Visitor α) : Node → α
  | .module m => v.module m
  | .function r => v.function r
  | .procedure r => v.procedure r
  | .parameter p => v.parameter p
  | .declaration d => v.declaration d
  | .reference r => v.reference r
  | .assignment a => v.assignment a
  | .ifStatement span condition body alternatives otherwise =>
    v.ifStatement span condition body alternatives otherwise
  | .whileLoop span condition body => v.whileLoop span condition body
  | .forLoop span counter first last collection body =>
    v.forLoop span counter first last collection body
  | .returnStatement span value => v.returnStatement span value
  | .binaryOperation span operator left right => v.binaryOperation span operator left right
  | .literal l => v.literal l
  | .call c => v.call c
  | .expression g => v.expression g

/-- The visitor that does the same whatever the kind. -/
def ofNodes (f : Node → α) : Visitor α where
  module m := f (.module m)
  function r := f (.function r)
  procedure r := f (.procedure r)
  parameter p := f (.parameter p)
  declaration d := f (.declaration d)
  reference r := f (.reference r)
  assignment a := f (.assignment a)
  ifStatement span condition body alternatives otherwise :=
    f (.ifStatement span condition body alternatives otherwise)
  whileLoop span condition body := f (.whileLoop span condition body)
  forLoop span counter first last collection body :=
    f (.forLoop span counter first last collection body)
  returnStatement span value := f (.returnStatement span value)
  binaryOperation span operator left right := f (.binaryOperation span operator left right)
  literal l := f (.literal l)
  call c := f (.call c)
  expression g := f (.expression g)

/-- A visitor that does the same for all kinds does it for each node. -/
theorem accept_ofNodes (f : Node → α) (n : Node) : (ofNodes f).accept n = f n := by
  cases n <;> rfl

/-- Every visitor is given by what it does for nodes. -/
theorem ofNodes_accept (v : Visitor α) : ofNodes v.accept = v := rfl

/-- Visitors that do the same for all nodes are equal. -/
theorem ext_accept {v w : Visitor α} (h : ∀ n, v.accept n = w.accept n) : v = w := by
  rw [← ofNodes_accept v, ← ofNodes_accept w, funext h]

end Methods

/-! ## Walkers -/

section Walkers

variable {γ σ : Type}

/-- Calls a method of the hook. -/
def report (sur : Surroundings γ) (method : γ → σ → Reaction σ) : Stretch γ σ := fun g s =>
  { surroundings := (method g s).entered.foldl (fun g name => sur.push name g) g
    state := (method g s).state
    panic := (method g s).panic }

/-- Sends the node in a slot through a walker. -/
def visit? (self : Visitor (Stretch γ σ)) : Option Node → Stretch γ σ
  | some n => self.accept n
  | none => Progress.idle

def visitAll (self : Visitor (Stretch γ σ)) : List (Option Node) → Stretch γ σ
  | [] => Progress.idle
  | slot :: rest => (self.visit? slot).seq (self.visitAll rest)

def visitStmts (self : Visitor (Stretch γ σ)) (body : List Stmt) : Stretch γ σ :=
  self.visitAll (body.map Stmt.node?)

def visitAlternatives (self : Visitor (Stretch γ σ)) : List Alternative → Stretch γ σ
  | [] => Progress.idle
  | .mk condition body :: rest =>
    (self.visit? condition.node?).seq ((self.visitStmts body).seq (self.visitAlternatives rest))

def visitRoutine (self : Visitor (Stretch γ σ)) (r : Routine) : Stretch γ σ :=
  (self.visitAll (r.parameters.map (Option.map .parameter))).seq (self.visitStmts r.body)

/-- The walker that shows each node to the hook before its children, and sends the children through `self`. -/
def traversal (sur : Surroundings γ) (hook : Visitor (γ → σ → Reaction σ))
    (self : Visitor (Stretch γ σ)) : Visitor (Stretch γ σ) where
  module m :=
    (report sur (hook.module m)).seq <|
      (self.visitAll (m.declarations.map (Option.map .declaration))).seq <|
      (self.visitAll (m.functions.map (Option.map .function))).seq <|
      self.visitAll (m.procedures.map (Option.map .procedure))
  function r := (report sur (hook.function r)).seq (self.visitRoutine r)
  procedure r := (report sur (hook.procedure r)).seq (self.visitRoutine r)
  parameter p := report sur (hook.parameter p)
  declaration d := report sur (hook.declaration d)
  reference r := report sur (hook.reference r)
  assignment a :=
    (report sur (hook.assignment a)).seq <|
      (self.visit? (a.target.map .reference)).seq (self.visit? a.value.node?)
  ifStatement span condition body alternatives otherwise :=
    (report sur (hook.ifStatement span condition body alternatives otherwise)).seq <|
      (self.visit? condition.node?).seq <| (self.visitStmts body).seq <|
      (self.visitAlternatives alternatives).seq (self.visitStmts otherwise)
  whileLoop span condition body :=
    (report sur (hook.whileLoop span condition body)).seq <|
      (self.visit? condition.node?).seq (self.visitStmts body)
  forLoop span counter first last collection body :=
    (report sur (hook.forLoop span counter first last collection body)).seq <|
      (self.visit? (counter.map .reference)).seq <| (self.visit? first.node?).seq <|
      (self.visit? last.node?).seq <| (self.visit? collection.node?).seq (self.visitStmts body)
  returnStatement span value :=
    (report sur (hook.returnStatement span value)).seq (self.visit? value.node?)
  binaryOperation span operator left right :=
    (report sur (hook.binaryOperation span operator left right)).seq <|
      (self.visit? left.node?).seq (self.visit? right.node?)
  literal l := report sur (hook.literal l)
  call c := (report sur (hook.call c)).seq (self.visitAll (c.arguments.map Expr.node?))
  expression g := report sur (hook.expression g)

/-- The walker that also keeps the context. It has methods of its own for the six kinds that change it. -/
def contextual (hook : Visitor (Context → σ → Reaction σ)) (self : Visitor (Stretch Context σ)) :
    Visitor (Stretch Context σ) :=
  let plain := traversal Context.surroundings hook self
  { plain with
    module := fun m => within Context.surroundings (.module m) (plain.module m)
    function := fun r => within Context.surroundings (.function r) (plain.function r)
    procedure := fun r => within Context.surroundings (.procedure r) (plain.procedure r)
    ifStatement := fun span condition body alternatives otherwise =>
      within Context.surroundings (.ifStatement span condition body alternatives otherwise)
        (plain.ifStatement span condition body alternatives otherwise)
    whileLoop := fun span condition body =>
      within Context.surroundings (.whileLoop span condition body) (plain.whileLoop span condition body)
    forLoop := fun span counter first last collection body =>
      within Context.surroundings (.forLoop span counter first last collection body)
        (plain.forLoop span counter first last collection body) }

/-- Slots are visited from left to right. -/
theorem visitAll_append (self : Visitor (Stretch γ σ)) (xs ys : List (Option Node)) :
    self.visitAll (xs ++ ys) = (self.visitAll xs).seq (self.visitAll ys) := by
  induction xs with
  | nil => rfl
  | cons x rest ih => rw [List.cons_append, visitAll, visitAll, ih, Stretch.seq_assoc]

/-- Visiting a single slot is visiting its node. -/
theorem visitAll_singleton (self : Visitor (Stretch γ σ)) (x : Option Node) :
    self.visitAll [x] = self.visit? x := Stretch.seq_idle _

/-- Further conditions are visited slot by slot. -/
theorem visitAlternatives_eq (self : Visitor (Stretch γ σ)) (alternatives : List Alternative) :
    self.visitAlternatives alternatives = self.visitAll (alternatives.flatMap Alternative.slots) := by
  induction alternatives with
  | nil => rfl
  | cons alternative rest ih =>
    obtain ⟨condition, body⟩ := alternative
    rw [visitAlternatives, ih, List.flatMap_cons, visitAll_append, Alternative.slots, visitAll,
      Stretch.seq_assoc]
    rfl

/-- Below a node, the walker goes through the slots in order. -/
theorem accept_traversal (sur : Surroundings γ) (hook : Visitor (γ → σ → Reaction σ))
    (self : Visitor (Stretch γ σ)) (n : Node) :
    (traversal sur hook self).accept n
      = (report sur (hook.accept n)).seq (self.visitAll n.slots) := by
  have hleaf : ∀ p : Stretch γ σ, p = p.seq (self.visitAll []) := fun p => (Stretch.seq_idle p).symm
  cases n with
  | module m =>
    rw [Node.slots, visitAll_append, visitAll_append, Stretch.seq_assoc]
    rfl
  | function r =>
    rw [Node.slots, Routine.slots, visitAll_append]
    rfl
  | procedure r =>
    rw [Node.slots, Routine.slots, visitAll_append]
    rfl
  | assignment a =>
    rw [Node.slots, visitAll, visitAll_singleton]
    rfl
  | ifStatement span condition body alternatives otherwise =>
    rw [Node.slots, List.cons_append, List.cons_append, visitAll, visitAll_append, visitAll_append,
      ← visitAlternatives_eq, Stretch.seq_assoc]
    rfl
  | forLoop span counter first last collection body => rfl
  | returnStatement span value =>
    rw [Node.slots, visitAll_singleton]
    rfl
  | binaryOperation span operator left right =>
    rw [Node.slots, visitAll, visitAll_singleton]
    rfl
  | whileLoop span condition body => rfl
  | call c => rfl
  | _ => exact hleaf _

/-- The walker that keeps the context is the plain one with the context of each node in force. -/
theorem accept_contextual (hook : Visitor (Context → σ → Reaction σ))
    (self : Visitor (Stretch Context σ)) (n : Node) :
    (contextual hook self).accept n
      = within Context.surroundings n ((traversal Context.surroundings hook self).accept n) := by
  cases n <;> rfl

/-- The walker sends everything through its own methods, with the surroundings of each node in force. -/
def Tied (sur : Surroundings γ) (hook : Visitor (γ → σ → Reaction σ)) (self : Visitor (Stretch γ σ)) :
    Prop :=
  ∀ n, self.accept n = within sur n ((traversal sur hook self).accept n)

/-- Without surroundings, a tied walker is one that is its own traversal. -/
theorem tied_iff_eq_traversal (hook : Visitor (Unit → σ → Reaction σ)) (self : Visitor (Stretch Unit σ)) :
    Tied .none hook self ↔ self = traversal .none hook self := by
  have hwithin : ∀ (n : Node) (p : Stretch Unit σ), within .none n p = p := fun _ _ => rfl
  constructor
  · intro h
    exact ext_accept fun n => (h n).trans (hwithin n _)
  · intro h n
    rw [hwithin, ← h]

/-- With a context, it is one that is its own contextual walker. -/
theorem tied_iff_eq_contextual (hook : Visitor (Context → σ → Reaction σ))
    (self : Visitor (Stretch Context σ)) :
    Tied Context.surroundings hook self ↔ self = contextual hook self := by
  constructor
  · intro h
    exact ext_accept fun n => (h n).trans (accept_contextual hook self n).symm
  · intro h n
    rw [← accept_contextual, ← h]

variable (sur : Surroundings γ) (hook : Visitor (γ → σ → Reaction σ))

/-- A walker that walks the outlines of the nodes in some slots walks those of the slots. -/
theorem visitAll_eq_walkOutlines {self : Visitor (Stretch γ σ)} {slots : List (Option Node)}
    (h : ∀ c, some c ∈ slots → self.accept c = walkOutline sur hook.accept c.outline) :
    self.visitAll slots = walkOutlines sur hook.accept (outlineOfSlots slots) := by
  induction slots with
  | nil => rfl
  | cons slot rest ih =>
    have hrest := ih fun c hc => h c (List.mem_cons_of_mem slot hc)
    cases slot with
    | none => exact hrest
    | some c =>
      rw [visitAll, hrest, visit?, h c List.mem_cons_self]
      rfl

/-- A walker that walks the outlines below a node walks the outline of the node. -/
theorem within_traversal_eq {self : Visitor (Stretch γ σ)} {n : Node}
    (h : ∀ c, some c ∈ n.slots → self.accept c = walkOutline sur hook.accept c.outline) :
    within sur n ((traversal sur hook self).accept n) = walkOutline sur hook.accept n.outline := by
  rw [accept_traversal, visitAll_eq_walkOutlines sur hook h, n.outline_eq]
  rfl

/-- A tied walker walks the outline. -/
theorem accept_eq_walkOutline {self : Visitor (Stretch γ σ)} (h : Tied sur hook self) (n : Node) :
    self.accept n = walkOutline sur hook.accept n.outline := by
  induction n using Node.induction_on_slots with
  | step n ih => rw [h n, within_traversal_eq sur hook ih]

/-- There is just one tied walker, by induction over trees. -/
theorem existsUnique_tied : ∃! self : Visitor (Stretch γ σ), Tied sur hook self := by
  refine ⟨ofNodes fun n => walkOutline sur hook.accept n.outline, fun n => ?_, fun self h => ?_⟩
  · rw [accept_ofNodes, within_traversal_eq sur hook fun c _ => accept_ofNodes _ c]
  · apply ext_accept
    intro n
    rw [accept_eq_walkOutline sur hook h, accept_ofNodes]

variable {sur hook} in
/-- Visiting the root of a tree, or none, is walking it. -/
theorem visit?_eq_walk {self : Visitor (Stretch γ σ)} (h : Tied sur hook self) (root : Option Node) :
    self.visit? root = walk sur hook.accept (root.map Node.outline) := by
  cases root with
  | none => rfl
  | some n => exact accept_eq_walkOutline sur hook h n

end Walkers

/-! ## The calls that a hook receives -/

section Calls

variable {γ σ : Type}

/-- A method that notes its kind and the node. -/
def noting (method : Kind) (n : Node) (react : γ → σ → Reaction σ) (g : γ) (s : σ × List (Kind × Node)) :
    Reaction (σ × List (Kind × Node)) :=
  { state := ((react g s.1).state, s.2 ++ [(method, n)])
    entered := (react g s.1).entered
    panic := (react g s.1).panic }

/-- The hook, with each method noting that it is called. -/
def tracing (hook : Visitor (γ → σ → Reaction σ)) :
    Visitor (γ → σ × List (Kind × Node) → Reaction (σ × List (Kind × Node))) where
  module m := noting .module (.module m) (hook.module m)
  function r := noting .function (.function r) (hook.function r)
  procedure r := noting .procedure (.procedure r) (hook.procedure r)
  parameter p := noting .parameter (.parameter p) (hook.parameter p)
  declaration d := noting .declaration (.declaration d) (hook.declaration d)
  reference r := noting .reference (.reference r) (hook.reference r)
  assignment a := noting .assignment (.assignment a) (hook.assignment a)
  ifStatement span condition body alternatives otherwise :=
    noting .ifStatement (.ifStatement span condition body alternatives otherwise)
      (hook.ifStatement span condition body alternatives otherwise)
  whileLoop span condition body :=
    noting .whileLoop (.whileLoop span condition body) (hook.whileLoop span condition body)
  forLoop span counter first last collection body :=
    noting .forLoop (.forLoop span counter first last collection body)
      (hook.forLoop span counter first last collection body)
  returnStatement span value :=
    noting .returnStatement (.returnStatement span value) (hook.returnStatement span value)
  binaryOperation span operator left right :=
    noting .binaryOperation (.binaryOperation span operator left right)
      (hook.binaryOperation span operator left right)
  literal l := noting .literal (.literal l) (hook.literal l)
  call c := noting .call (.call c) (hook.call c)
  expression g := noting .expression (.expression g) (hook.expression g)

/-- Noting the method of each call is noting the kind of each node. -/
theorem accept_tracing (hook : Visitor (γ → σ → Reaction σ)) :
    hook.tracing.accept = logging (fun n _ _ => (n.kind, n)) hook.accept := by
  funext n
  cases n <;> rfl

/-- No method panics. -/
def Steady (hook : Visitor (γ → σ → Reaction σ)) : Prop := ∀ n g s, (hook.accept n g s).panic = none

/-- The walk comes to its end, and it has called the hook for the given nodes, one after another and each through
the method of its kind. -/
def CallsExactly (nodes : List Node) (p : Progress γ (σ × List (Kind × Node))) : Prop :=
  p.panic = none ∧ p.state.2 = nodes.map fun n => (n.kind, n)

/-- A tied walker calls the hook for each node of the outline, through the method of its kind. -/
theorem callsExactly_of_tied {sur : Surroundings γ} {hook : Visitor (γ → σ → Reaction σ)}
    (hsteady : hook.Steady) {self : Visitor (Stretch γ (σ × List (Kind × Node)))}
    (htied : Tied sur hook.tracing self) (root : Option Node) (g : γ) (s : σ) :
    CallsExactly ((root.map fun n => n.outline.nodes).getD []) (self.visit? root g (s, [])) := by
  cases root with
  | none => exact ⟨rfl, rfl⟩
  | some n =>
    have hobserves : Observes hook.tracing.accept (fun s => s.2)
        (fun n calls => calls ++ [(n.kind, n)]) := by
      rw [accept_tracing]
      exact { panic_eq_none := fun n g s => hsteady n g s.1, view_state := fun _ _ _ => rfl }
    obtain ⟨hpanic, hcalls⟩ := walkOutline_observes sur hobserves n.outline g (s, [])
    rw [visit?, accept_eq_walkOutline sur hook.tracing htied]
    have hfold : (n.outline.nodes.map fun n => (n.kind, n)).foldl (fun log x => log ++ [x]) []
        = n.outline.nodes.foldl (fun calls n => calls ++ [(n.kind, n)]) [] := List.foldl_map
    rw [foldl_append_singleton, List.nil_append] at hfold
    exact ⟨hpanic, hcalls.trans hfold.symm⟩

end Calls

end Visitor

/-! ## Completeness -/

/-- The node at an address, if there is a tree at all. -/
def nodeAt? (root : Option Node) (address : List Nat) : Option Node := root.bind fun n => n.at? address

/-- The nodes of a tree, if there is one, stand at its addresses. -/
theorem exists_enumerates_nodeAt? (root : Option Node) :
    ∃ addresses, Enumerates (nodeAt? root) addresses ((root.map fun n => n.outline.nodes).getD []) := by
  cases root with
  | none =>
    refine ⟨[], List.Pairwise.nil, fun address => ?_, rfl⟩
    simp [nodeAt?]
  | some n => exact exists_enumerates_nodes n

/-- What is found at one address only is listed once. -/
theorem Enumerates.nodup_of_injective {α : Type} {find : List Nat → Option α} {addresses : List (List Nat)}
    {found : List α} (h : Enumerates find addresses found)
    (hinj : ∀ a b x, find a = some x → find b = some x → a = b) :
    found.Nodup ∧ ∀ x, x ∈ found ↔ ∃ a, find a = some x := by
  have hmem : ∀ x, x ∈ found ↔ ∃ a, find a = some x := by
    intro x
    have hsome : x ∈ found ↔ some x ∈ found.map some := by simp
    rw [hsome, ← h.map_eq, List.mem_map]
    constructor
    · rintro ⟨a, -, ha⟩
      exact ⟨a, ha⟩
    · rintro ⟨a, ha⟩
      exact ⟨a, (h.mem_iff a).mpr (by rw [ha]; rfl), ha⟩
  refine ⟨?_, hmem⟩
  have hdistinct : addresses.Nodup := h.sorted.imp fun hlt heq => by
    subst heq
    exact absurd hlt (List.lt_irrefl _)
  have hmapped : (addresses.map find).Nodup := by
    refine hdistinct.map_on fun a ha b hb heq => ?_
    obtain ⟨x, hx⟩ := Option.isSome_iff_exists.mp ((h.mem_iff a).mp ha)
    exact hinj a b x hx (heq ▸ hx)
  rw [h.map_eq] at hmapped
  exact hmapped.of_map some

/-- For every tree, with holes anywhere, there is one sequence of nodes: those at all addresses of the tree, in the order
of the addresses. If no node occurs twice, it has each node that can be reached through slots exactly once. A walk with a
hook that does not panic calls the hook for these nodes in this order, and each time through the method of the node's
kind. This holds of the plain walker and, whatever the context, of the walker that keeps one. -/
theorem walk_visits_each_node_once (root : Option Node) :
    ∃ (addresses : List (List Nat)) (nodes : List Node),
      Enumerates (nodeAt? root) addresses nodes
      ∧ ((∀ a b n, nodeAt? root a = some n → nodeAt? root b = some n → a = b) →
          nodes.Nodup ∧ ∀ n, n ∈ nodes ↔ ∃ a, nodeAt? root a = some n)
      ∧ (∀ (σ : Type) (hook : Visitor (Unit → σ → Reaction σ)), hook.Steady →
          (∃! self, self = Visitor.traversal .none hook.tracing self)
          ∧ ∀ self, self = Visitor.traversal .none hook.tracing self →
              self.visit? root = walk .none hook.tracing.accept (root.map Node.outline)
              ∧ ∀ s, Visitor.CallsExactly nodes (self.visit? root () (s, [])))
      ∧ ∀ (σ : Type) (hook : Visitor (Context → σ → Reaction σ)), hook.Steady →
          (∃! self, self = Visitor.contextual hook.tracing self)
          ∧ ∀ self, self = Visitor.contextual hook.tracing self →
              self.visit? root = walk Context.surroundings hook.tracing.accept (root.map Node.outline)
              ∧ ∀ c s, Visitor.CallsExactly nodes (self.visit? root c (s, [])) := by
  obtain ⟨addresses, henumerates⟩ := exists_enumerates_nodeAt? root
  refine ⟨addresses, _, henumerates, henumerates.nodup_of_injective, ?_, ?_⟩
  · intro σ hook hsteady
    have hunique := Visitor.existsUnique_tied .none hook.tracing
    simp only [Visitor.tied_iff_eq_traversal] at hunique
    refine ⟨hunique, fun self hself => ?_⟩
    have htied := (Visitor.tied_iff_eq_traversal hook.tracing self).mpr hself
    exact ⟨Visitor.visit?_eq_walk htied root, Visitor.callsExactly_of_tied hsteady htied root ()⟩
  · intro σ hook hsteady
    have hunique := Visitor.existsUnique_tied Context.surroundings hook.tracing
    simp only [Visitor.tied_iff_eq_contextual] at hunique
    refine ⟨hunique, fun self hself => ?_⟩
    have htied := (Visitor.tied_iff_eq_contextual hook.tracing self).mpr hself
    exact ⟨Visitor.visit?_eq_walk htied root, Visitor.callsExactly_of_tied hsteady htied root⟩

/-- The hook that counts its calls. -/
def counting : Visitor (Unit → Nat → Reaction Nat) := .ofNodes fun _ _ calls => { state := calls + 1 }

/-- In a module whose second variable, first parameter and last statement are missing, the target of the assignment
is still found by its slots. -/
theorem walk_visits_each_node_once_repeating :
    counting.Steady
    ∧ ∃ (addresses : List (List Nat)) (nodes : List Node),
        Enumerates (nodeAt? (some (.module repeatingModule))) addresses nodes
        ∧ [2, 1, 1, 0] ∈ addresses
        ∧ nodes.map Node.kind
          = [.module, .declaration, .function, .whileLoop, .reference, .assignment, .reference] := by
  have hsteady : counting.Steady := by
    intro n g s
    rw [counting, Visitor.accept_ofNodes]
  obtain ⟨addresses, nodes, henumerates, -, hplain, -⟩ :=
    walk_visits_each_node_once (some (.module repeatingModule))
  obtain ⟨⟨self, hself, -⟩, hcalls⟩ := hplain Nat counting hsteady
  obtain ⟨hwalk, hexact⟩ := hcalls self hself
  have hnodes := (hexact 0).2
  rw [hwalk] at hnodes
  refine ⟨hsteady, addresses, nodes, henumerates, (henumerates.mem_iff _).mpr (by decide), ?_⟩
  calc nodes.map Node.kind
      = (nodes.map fun n => (n.kind, n)).map Prod.fst := by rw [List.map_map]; rfl
    _ = [.module, .declaration, .function, .whileLoop, .reference, .assignment, .reference] := by
        rw [← hnodes]
        decide

end ModuleLint
