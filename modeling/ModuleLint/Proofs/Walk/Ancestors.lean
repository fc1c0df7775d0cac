import Mathlib.Data.List.Forall2
import ModuleLint.Proofs.Rule.Looks
import ModuleLint.Proofs.Walk.Addresses
import ModuleLint.Proofs.Walk.SamePlace

/-!
# The context of a node is told by its ancestors

The context is changed on entering a node and put back on leaving it, so what a hook sees at a node could depend on all
that was walked before. It does not. Walking from any place, the context at a node is the one that comes of entering the
nodes on the way down to it, one after another (`forall₂_lineages`). This holds for any relation between contexts that
visits, entering and leaving respect: for the place as a whole if the hook enters no scopes of its own
(`follows_samePlace`), and for the routine, the loop and the condition around a node whatever the hook does
(`follows_sameSurround`).

What comes of entering nodes one after another is read off the nodes (`Whereabouts.ofPath`). In a module the way down
leads through at most one routine, right below the module (`standing_ofPath`).
-/

set_option autoImplicit false

namespace ModuleLint

open Context

/-! ## Following a walk -/

/-- The second surroundings stand for the first ones, along visits and when nodes are entered and left. -/
structure Follows {γ σ : Type} (sur : Surroundings γ) (hook : Hook γ σ) (R : γ → γ → Prop) : Prop where
  refl : ∀ g, R g g
  trans : ∀ {a b c}, R a b → R b c → R a c
  visit : ∀ n g s, R g (visit sur hook n g s).surroundings
  enter : ∀ n {a b}, R a b → R (sur.enter n a) (sur.enter n b)
  leave : ∀ n g after, R (sur.enter n g) after → R g (sur.leave n g after)

section Follows

variable {γ σ ε : Type} {sur : Surroundings γ} {hook : Hook γ σ} {R : γ → γ → Prop}
  {record : Node → γ → σ → ε} {nodeOf : ε → Node} {placeOf : ε → γ}

/-- The surroundings after entering the nodes of a path from the top down. -/
def enterAll (sur : Surroundings γ) (g : γ) (path : List Node) : γ :=
  path.foldl (fun g n => sur.enter n g) g

/-- The entry is about the last node of a path, in the surroundings that the path leads to. -/
def ReachedBy (sur : Surroundings γ) (R : γ → γ → Prop) (nodeOf : ε → Node) (placeOf : ε → γ) (start : γ)
    (path : List Node) (e : ε) : Prop :=
  path.getLast? = some (nodeOf e) ∧ R (enterAll sur start path) (placeOf e)

/-- A path below a node begins with it. -/
theorem ReachedBy.cons {start : γ} {n : Node} {path : List Node} {e : ε}
    (h : ReachedBy sur R nodeOf placeOf (sur.enter n start) path e) :
    ReachedBy sur R nodeOf placeOf start (n :: path) e := by
  refine ⟨?_, h.2⟩
  rw [List.getLast?_cons, h.1, Option.getD_some]

/-- A record tells the node and its surroundings. -/
structure Tells (record : Node → γ → σ → ε) (nodeOf : ε → Node) (placeOf : ε → γ) : Prop where
  node_eq : ∀ n g s, nodeOf (record n g s) = n
  place_eq : ∀ n g s, placeOf (record n g s) = g

mutual

/-- The log of a hook that does not panic goes through the lineages of the outline, and the walk comes back to where
it began. -/
theorem forall₂_lineages (h : Follows sur hook R) (hpanic : ∀ n g s, (hook n g s).panic = none)
    (htells : Tells record nodeOf placeOf) : ∀ (o : Outline) (start g : γ) (s : σ), R start g →
    List.Forall₂ (ReachedBy sur R nodeOf placeOf start) o.lineages (logOf sur record hook o g s)
      ∧ R g (walkOutline sur hook o g s).surroundings
  | .node n children, start, g, s => by
    intro hstart
    have hentered : R (sur.enter n start) (sur.enter n g) := h.enter n hstart
    have hvisit := h.visit n (sur.enter n g) s
    obtain ⟨hbelow, hafter⟩ := forall₂_lineagesOfAll h hpanic htells children (sur.enter n start)
      (visit sur hook n (sur.enter n g) s).surroundings (visit sur hook n (sur.enter n g) s).state
      (h.trans hentered hvisit)
    have hnone : (visit sur hook n (sur.enter n g) s).panic = none := hpanic n _ s
    constructor
    · rw [Outline.lineages, logOf_node, hpanic]
      refine .cons ⟨?_, ?_⟩ ?_
      · rw [htells.node_eq]
        rfl
      · rw [htells.place_eq]
        exact hentered
      · rw [List.forall₂_map_left_iff]
        exact hbelow.imp fun _ _ => ReachedBy.cons
    · apply h.leave
      simp only [Progress.andThen, hnone]
      exact h.trans hvisit hafter

/-- The log of a hook that does not panic goes through the lineages of trees side by side. -/
theorem forall₂_lineagesOfAll (h : Follows sur hook R) (hpanic : ∀ n g s, (hook n g s).panic = none)
    (htells : Tells record nodeOf placeOf) : ∀ (os : List Outline) (start g : γ) (s : σ), R start g →
    List.Forall₂ (ReachedBy sur R nodeOf placeOf start) (lineagesOfAll os) (logOfAll sur record hook os g s)
      ∧ R g (walkOutlines sur hook os g s).surroundings
  | [], start, g, s => fun _ => ⟨.nil, h.refl g⟩
  | o :: rest, start, g, s => by
    intro hstart
    obtain ⟨hfirst, hback⟩ := forall₂_lineages h hpanic htells o start g s hstart
    obtain ⟨hrest, hafter⟩ := forall₂_lineagesOfAll h hpanic htells rest start
      (walkOutline sur hook o g s).surroundings (walkOutline sur hook o g s).state
      (h.trans hstart hback)
    have hobserves : Observes hook (fun _ => ()) (fun _ _ => ()) :=
      { panic_eq_none := hpanic, view_state := fun _ _ _ => rfl }
    have hnone := (walkOutline_observes sur hobserves o g s).1
    constructor
    · rw [lineagesOfAll, logOfAll_cons, hnone]
      exact List.rel_append hfirst hrest
    · simp only [walkOutlines, Progress.andThen, hnone]
      exact h.trans hback hafter

end

end Follows

/-! ## What contexts keep -/

namespace Context

/-- The function, the procedure, the loop and the condition around are the same. -/
structure SameSurround (c d : Context) : Prop where
  function? : d.function? = c.function?
  procedure? : d.procedure? = c.procedure?
  inLoop : d.inLoop = c.inLoop
  inCondition : d.inCondition = c.inCondition

/-- Entering a node changes equal surroundings in the same way. -/
theorem SameSurround.enter {c d : Context} (h : SameSurround c d) (n : Node) :
    SameSurround (Context.enter n c) (Context.enter n d) := by
  cases n with
  | module m =>
    rw [enter_module, enter_module]
    exact { h with }
  | function r => exact { h with function? := rfl, procedure? := rfl }
  | procedure r => exact { h with function? := rfl, procedure? := rfl }
  | ifStatement => exact { h with inCondition := rfl }
  | whileLoop => exact { h with inLoop := rfl }
  | forLoop => exact { h with inLoop := rfl }
  | _ => exact h

/-- Leaving a node puts back what was around it. -/
theorem SameSurround.leave {n : Node} {c after : Context} (h : SameSurround (Context.enter n c) after) :
    SameSurround c (Context.leave n c after) := by
  cases n with
  | module m =>
    rw [enter_module] at h
    exact { h with }
  | function r => exact { h with function? := rfl, procedure? := rfl }
  | procedure r => exact { h with function? := rfl, procedure? := rfl }
  | ifStatement => exact { h with inCondition := rfl }
  | whileLoop => exact { h with inLoop := rfl }
  | forLoop => exact { h with inLoop := rfl }
  | _ => exact h

/-- Leaving a node puts back the place. -/
theorem SamePlace.leave {n : Node} {c after : Context} (h : SamePlace (Context.enter n c) after) :
    SamePlace c (Context.leave n c after) := by
  have hinside : LeadsTo (Context.enter n c) after :=
    { h with scopes := by simp only [h.scopes, List.prefix_rfl] }
  apply hinside.leave.samePlace
  cases hn : n.isRoutine with
  | true => exact hinside.height_leave hn
  | false =>
    rw [stack_leave hn, ← ScopeStack.length_scopes, h.scopes, stack_enter hn, ScopeStack.length_scopes]

/-- What is around a node does not depend on the scopes that a hook enters. -/
theorem follows_sameSurround {σ : Type} (hook : Hook Context σ) :
    Follows surroundings hook SameSurround where
  refl _ := ⟨rfl, rfl, rfl, rfl⟩
  trans hab hbc :=
    { function? := hbc.function?.trans hab.function?
      procedure? := hbc.procedure?.trans hab.procedure?
      inLoop := hbc.inLoop.trans hab.inLoop
      inCondition := hbc.inCondition.trans hab.inCondition }
  visit n c s := by
    show SameSurround c ((hook n c s).entered.foldl (fun c name => surroundings.push name c) c)
    generalize (hook n c s).entered = names
    induction names generalizing c with
    | nil => exact ⟨rfl, rfl, rfl, rfl⟩
    | cons name rest ih => exact { ih (surroundings.push name c) with }
  enter n _ _ h := h.enter n
  leave _ _ _ h := h.leave

/-- A hook that enters no scopes is followed in its place. -/
theorem follows_samePlace {σ : Type} {hook : Hook Context σ} (hentered : ∀ n c s, (hook n c s).entered = []) :
    Follows surroundings hook SamePlace where
  refl _ := ⟨rfl, rfl, rfl, rfl, rfl⟩
  trans := SamePlace.trans
  visit n c s := by
    show SamePlace c ((hook n c s).entered.foldl (fun c name => surroundings.push name c) c)
    rw [hentered]
    exact ⟨rfl, rfl, rfl, rfl, rfl⟩
  enter n _ _ h := h.enter n
  leave _ _ _ h := h.leave

end Context

/-! ## Places -/

def Node.isLoop : Node → Bool
  | .whileLoop .. => true
  | .forLoop .. => true
  | _ => false

def Node.isCondition : Node → Bool
  | .ifStatement .. => true
  | _ => false

/-- The routine that a node is. -/
def Node.routine? : Node → Option (RoutineKind × Routine)
  | .function r => some (.function, r)
  | .procedure r => some (.procedure, r)
  | _ => none

/-- Where a node stands. -/
structure Whereabouts where
  scopes : List String
  routine : Option (RoutineKind × Routine)
  inLoop : Bool
  inCondition : Bool

namespace Whereabouts

/-- The place of a node, told by the nodes from the top down to it. -/
def ofPath (path : List Node) : Whereabouts :=
  { scopes := ScopeStack.globalName
      :: (path.filterMap Node.routine?).map fun x => Context.scopeName x.1 x.2.name
    routine := (path.filterMap Node.routine?).getLast?
    inLoop := path.any Node.isLoop
    inCondition := path.any Node.isCondition }

def scope (p : Whereabouts) : String := ".".intercalate p.scopes

def routineName (p : Whereabouts) : String :=
  match p.routine with
  | some (_, r) => r.name
  | none => ""

def function? (p : Whereabouts) : Option Routine :=
  match p.routine with
  | some (.function, r) => some r
  | _ => none

def procedure? (p : Whereabouts) : Option Routine :=
  match p.routine with
  | some (.procedure, r) => some r
  | _ => none

/-- What a rule is told about the place of a node. -/
def site (p : Whereabouts) (m : Module) : Site :=
  { module? := some m, scope := p.scope, routine := p.routineName, inLoop := p.inLoop
    inCondition := p.inCondition }

end Whereabouts

namespace Context

def whereabouts (c : Context) : Whereabouts :=
  { scopes := c.stack.scopes, routine := c.routine, inLoop := c.inLoop, inCondition := c.inCondition }

/-- Contexts at the same place tell the same whereabouts. -/
theorem SamePlace.whereabouts_eq {c d : Context} (h : SamePlace c d) : d.whereabouts = c.whereabouts := by
  unfold whereabouts
  rw [h.scopes, h.routine, h.inLoop, h.inCondition]

/-- There are not both a function and a procedure around. -/
def Single (c : Context) : Prop := c.function? = none ∨ c.procedure? = none

/-- A routine that is entered replaces the one around it. -/
theorem Single.enter {c : Context} (h : Single c) (n : Node) : Single (enter n c) := by
  cases n with
  | module m =>
    rw [enter_module]
    exact h
  | function r => exact .inr rfl
  | procedure r => exact .inl rfl
  | _ => exact h

/-- A path never leads into both a function and a procedure. -/
theorem Single.enterAll {c : Context} (h : Single c) (path : List Node) :
    Single (enterAll surroundings c path) := by
  induction path generalizing c with
  | nil => exact h
  | cons n rest ih => exact ih (h.enter n)

/-- If there are not both, the routine around tells the function and the procedure around. -/
theorem Single.whereabouts {c : Context} (h : Single c) :
    c.whereabouts.function? = c.function? ∧ c.whereabouts.procedure? = c.procedure? := by
  unfold Single at h
  unfold Whereabouts.function? Whereabouts.procedure? Context.whereabouts routine
  cases hfunction : c.function? with
  | none => cases hprocedure : c.procedure? <;> simp
  | some r =>
    rw [hfunction, or_iff_right (by simp)] at h
    simp [h]

/-- What entering a node adds to the place. -/
theorem whereabouts_enter (n : Node) (c : Context) :
    (enter n c).whereabouts
      = { scopes := c.stack.scopes ++ (n.routine?.map fun x => scopeName x.1 x.2.name).toList
          routine := n.routine?.or c.routine
          inLoop := c.inLoop || n.isLoop
          inCondition := c.inCondition || n.isCondition } := by
  cases n with
  | module m =>
    rw [enter_module]
    simp [whereabouts, routine, Node.routine?, Node.isLoop, Node.isCondition]
  | function r => simp [whereabouts, routine, enter, enterRoutine, Node.routine?, Node.isLoop, Node.isCondition]
  | procedure r => simp [whereabouts, routine, enter, enterRoutine, Node.routine?, Node.isLoop, Node.isCondition]
  | _ => simp [whereabouts, routine, enter, Node.routine?, Node.isLoop, Node.isCondition]

/-- What a path adds to the place. -/
theorem whereabouts_enterAll (path : List Node) (c : Context) :
    (enterAll surroundings c path).whereabouts
      = { scopes := c.stack.scopes
            ++ (path.filterMap Node.routine?).map fun x => scopeName x.1 x.2.name
          routine := (path.filterMap Node.routine?).getLast?.or c.routine
          inLoop := c.inLoop || path.any Node.isLoop
          inCondition := c.inCondition || path.any Node.isCondition } := by
  induction path generalizing c with
  | nil => simp [enterAll, whereabouts]
  | cons n rest ih =>
    have hfirst := whereabouts_enter n c
    simp only [whereabouts, Whereabouts.mk.injEq] at hfirst
    obtain ⟨hscopes, hroutine, hloop, hcondition⟩ := hfirst
    show (enterAll surroundings (enter n c) rest).whereabouts = _
    rw [ih, hscopes, hroutine, hloop, hcondition]
    cases hn : n.routine? with
    | none => simp [hn, Bool.or_assoc]
    | some x =>
      cases hlast : (rest.filterMap Node.routine?).getLast? with
      | none => simp [hn, Bool.or_assoc, List.getLast?_cons, hlast]
      | some y => simp [hn, Bool.or_assoc, List.getLast?_cons, hlast]

/-- From the start of a walk no path leads into both a function and a procedure. -/
theorem single_enterAll_ofModule (name : String) (path : List Node) :
    Single (enterAll surroundings (ofModule name) path) :=
  Single.enterAll (.inl rfl) path

/-- At the start of a walk nothing has been entered. -/
theorem whereabouts_enterAll_ofModule (name : String) (path : List Node) :
    (enterAll surroundings (ofModule name) path).whereabouts = Whereabouts.ofPath path := by
  rw [whereabouts_enterAll]
  simp [Whereabouts.ofPath, ofModule, routine, ScopeStack.global, ScopeStack.scopes]

end Context

/-! ## Paths in a module -/

/-- How the nodes on the way down tell the scopes and the routine of a node in a module. -/
inductive Standing (m : Module) : List Node → List String → Option (RoutineKind × Routine) → Prop
  | module : Standing m [.module m] ["global"] none
  | declaration (d : Declaration) (hd : some d ∈ m.declarations) :
      Standing m [.module m, .declaration d] ["global"] none
  | function (r : Routine) (below : List Node) (hr : some r ∈ m.functions) :
      Standing m (.module m :: .function r :: below) ["global", "func:" ++ r.name] (some (.function, r))
  | procedure (r : Routine) (below : List Node) (hr : some r ∈ m.procedures) :
      Standing m (.module m :: .procedure r :: below) ["global", "procedure:" ++ r.name]
        (some (.procedure, r))

/-- A child stands in a slot. -/
theorem Node.mem_slots_of_child? {n c : Node} {i : Nat} (h : n.child? i = some c) : some c ∈ n.slots :=
  List.mem_of_getElem? (Option.join_eq_some_iff.mp h)

/-- No expression is a routine or a module. -/
theorem Expr.isHead_of_mem_node? (e : Expr) : ∀ c ∈ e.node?, c.isHead = false := by
  intro c hc
  cases e <;> simp only [Expr.node?, Option.mem_def, Option.some.injEq, reduceCtorEq] at hc <;> subst hc <;> rfl

/-- No statement is a routine or a module. -/
theorem Stmt.isHead_of_mem_node? (s : Stmt) : ∀ c ∈ s.node?, c.isHead = false := by
  intro c hc
  cases s <;> simp only [Stmt.node?, Option.mem_def, Option.some.injEq, reduceCtorEq] at hc <;> subst hc <;> rfl

/-- No statement of a body is a routine or a module. -/
theorem isHead_of_mem_stmts (ss : List Stmt) : ∀ slot ∈ ss.map Stmt.node?, ∀ c ∈ slot, c.isHead = false := by
  intro slot hslot
  obtain ⟨s, -, rfl⟩ := List.mem_map.mp hslot
  exact s.isHead_of_mem_node?

/-- Slots for nodes of one other kind hold neither routines nor modules. -/
theorem isHead_of_mem_map {α : Type} {node : α → Node} (hnode : ∀ a, (node a).isHead = false)
    (x : Option α) : ∀ c ∈ x.map node, c.isHead = false := by
  intro c hc
  obtain ⟨a, -, rfl⟩ := Option.map_eq_some_iff.mp hc
  exact hnode a

/-- No routine or module stands right below a routine. -/
theorem Routine.isHead_of_mem_slots (r : Routine) : ∀ slot ∈ r.slots, ∀ c ∈ slot, c.isHead = false := by
  refine List.forall_mem_append.mpr ⟨?_, isHead_of_mem_stmts r.body⟩
  intro slot hslot
  obtain ⟨x, -, rfl⟩ := List.mem_map.mp hslot
  exact isHead_of_mem_map (fun _ => rfl) x

/-- No routine or module stands right below a further condition. -/
theorem isHead_of_mem_alternatives (alternatives : List Alternative) :
    ∀ slot ∈ alternatives.flatMap Alternative.slots, ∀ c ∈ slot, c.isHead = false := by
  intro slot hslot
  obtain ⟨⟨condition, body⟩, -, hslot⟩ := List.mem_flatMap.mp hslot
  exact List.forall_mem_cons.mpr ⟨condition.isHead_of_mem_node?, isHead_of_mem_stmts body⟩ slot hslot

/-- Modules and routines stand nowhere but at the top and right below a module. -/
theorem Node.isHead_of_mem_slots {n : Node} (hn : n.kind ≠ .module) :
    ∀ slot ∈ n.slots, ∀ c ∈ slot, c.isHead = false := by
  cases n with
  | module m => exact absurd rfl hn
  | function r => exact r.isHead_of_mem_slots
  | procedure r => exact r.isHead_of_mem_slots
  | assignment a =>
    simp only [slots, List.forall_mem_cons]
    exact ⟨isHead_of_mem_map (fun _ => rfl) a.target, a.value.isHead_of_mem_node?, List.forall_mem_nil _⟩
  | ifStatement span condition body alternatives otherwise =>
    simp only [slots, List.forall_mem_append, List.forall_mem_cons]
    exact ⟨⟨⟨condition.isHead_of_mem_node?, isHead_of_mem_stmts body⟩,
      isHead_of_mem_alternatives alternatives⟩, isHead_of_mem_stmts otherwise⟩
  | whileLoop span condition body =>
    exact List.forall_mem_cons.mpr ⟨condition.isHead_of_mem_node?, isHead_of_mem_stmts body⟩
  | forLoop span counter first last collection body =>
    simp only [slots, List.forall_mem_append, List.forall_mem_cons]
    exact ⟨⟨isHead_of_mem_map (fun _ => rfl) counter, first.isHead_of_mem_node?, last.isHead_of_mem_node?,
      collection.isHead_of_mem_node?, List.forall_mem_nil _⟩, isHead_of_mem_stmts body⟩
  | returnStatement span value =>
    simp only [slots, List.forall_mem_cons]
    exact ⟨value.isHead_of_mem_node?, List.forall_mem_nil _⟩
  | binaryOperation span operator left right =>
    simp only [slots, List.forall_mem_cons]
    exact ⟨left.isHead_of_mem_node?, right.isHead_of_mem_node?, List.forall_mem_nil _⟩
  | call c =>
    intro slot hslot
    obtain ⟨e, -, rfl⟩ := List.mem_map.mp hslot
    exact e.isHead_of_mem_node?
  | _ => exact List.forall_mem_nil _

/-- A path that does not begin with a module meets no routine after its first node. -/
theorem Node.exists_path?_eq {n : Node} {address : List Nat} {path : List Node}
    (h : n.path? address = some path) (hn : n.kind ≠ .module) :
    ∃ below, path = n :: below ∧ ∀ y ∈ below, y.isHead = false := by
  induction address generalizing n path with
  | nil =>
    cases h
    exact ⟨[], rfl, List.forall_mem_nil _⟩
  | cons i address ih =>
    obtain ⟨c, hc, h⟩ := Option.bind_eq_some_iff.mp h
    obtain ⟨path, hpath, rfl⟩ := Option.map_eq_some_iff.mp h
    have hhead : c.isHead = false := isHead_of_mem_slots hn _ (mem_slots_of_child? hc) c rfl
    obtain ⟨below, rfl, hbelow⟩ := ih hpath (kind_ne_module_of_not_isHead hhead)
    exact ⟨c :: below, rfl, List.forall_mem_cons.mpr ⟨hhead, hbelow⟩⟩

/-- Nodes that are neither routines nor modules tell no routine. -/
theorem filterMap_routine?_eq_nil {below : List Node} (h : ∀ y ∈ below, y.isHead = false) :
    below.filterMap Node.routine? = [] := by
  rw [List.filterMap_eq_nil_iff]
  intro y hy
  have hhead := h y hy
  cases y <;> first | rfl | cases hhead

/-- The scopes and the routine that the nodes on the way down tell. -/
theorem standing_ofPath {m : Module} {address : List Nat} {path : List Node}
    (h : (Node.module m).path? address = some path) :
    Standing m path (Whereabouts.ofPath path).scopes (Whereabouts.ofPath path).routine := by
  cases address with
  | nil =>
    cases h
    exact .module
  | cons i address =>
    obtain ⟨c, hc, h⟩ := Option.bind_eq_some_iff.mp h
    obtain ⟨path, hpath, rfl⟩ := Option.map_eq_some_iff.mp h
    have hslot := Node.mem_slots_of_child? hc
    simp only [Node.slots, List.mem_append, List.mem_map, Option.map_eq_some_iff] at hslot
    obtain (⟨x, hx, d, rfl, rfl⟩ | ⟨x, hx, r, rfl, rfl⟩) | ⟨x, hx, r, rfl, rfl⟩ := hslot
    · -- a declaration has no slots
      cases address with
      | nil =>
        cases hpath
        exact .declaration d hx
      | cons j rest => cases hpath
    · obtain ⟨below, rfl, hbelow⟩ := Node.exists_path?_eq hpath Kind.noConfusion
      simp only [Whereabouts.ofPath, List.filterMap_cons, Node.routine?, filterMap_routine?_eq_nil hbelow]
      exact .function r below hx
    · obtain ⟨below, rfl, hbelow⟩ := Node.exists_path?_eq hpath Kind.noConfusion
      simp only [Whereabouts.ofPath, List.filterMap_cons, Node.routine?, filterMap_routine?_eq_nil hbelow]
      exact .procedure r below hx

/-! ## What hooks, rules and collectors are told -/

/-- The routine, the loop and the condition around are those that a path tells, and there are not both a function and a
procedure around. -/
structure ToldBy (path : List Node) (c : Context) : Prop where
  function? : c.function? = (Whereabouts.ofPath path).function?
  procedure? : c.procedure? = (Whereabouts.ofPath path).procedure?
  single : c.Single
  routine : c.routine = (Whereabouts.ofPath path).routine
  inLoop : c.inLoop = (Whereabouts.ofPath path).inLoop
  inCondition : c.inCondition = (Whereabouts.ofPath path).inCondition

/-- What a path tells is around the node that it leads to. -/
theorem toldBy_enterAll (name : String) (path : List Node) :
    ToldBy path (enterAll surroundings (ofModule name) path) := by
  have hsingle := single_enterAll_ofModule name path
  have htold := whereabouts_enterAll_ofModule name path
  obtain ⟨hfunction, hprocedure⟩ := hsingle.whereabouts
  rw [htold] at hfunction hprocedure
  exact
    { function? := hfunction.symm
      procedure? := hprocedure.symm
      single := hsingle
      routine := congrArg Whereabouts.routine htold
      inLoop := congrArg Whereabouts.inLoop htold
      inCondition := congrArg Whereabouts.inCondition htold }

/-- What is told is the same in equal surroundings. -/
theorem ToldBy.of_sameSurround {path : List Node} {c d : Context} (h : ToldBy path c) (hsame : SameSurround c d) :
    ToldBy path d where
  function? := hsame.function?.trans h.function?
  procedure? := hsame.procedure?.trans h.procedure?
  single := by
    unfold Single
    rw [hsame.function?, hsame.procedure?]
    exact h.single
  routine := (routine_congr hsame.function? hsame.procedure?).trans h.routine
  inLoop := hsame.inLoop.trans h.inLoop
  inCondition := hsame.inCondition.trans h.inCondition

/-- The hook sees the last node of a path, at the place that the path tells. -/
structure SeenAt {σ : Type} (hook : Hook Context σ) (path : List Node) (v : Visit Context) : Prop
    extends ToldBy path v.surroundings where
  node : path.getLast? = some v.node
  scopes : (∀ n c s, (hook n c s).entered = []) →
    v.surroundings.stack.scopes = (Whereabouts.ofPath path).scopes

/-- The look at the last node of a path. -/
def lookFrom (m : Module) (path : List Node) : Option Look :=
  match path.getLast? with
  | some (.module m) => some (.module m)
  | some (.function r) => some (.function r ((Whereabouts.ofPath path).site m))
  | some (.procedure r) => some (.procedure r ((Whereabouts.ofPath path).site m))
  | some (.declaration d) => some (.declaration d ((Whereabouts.ofPath path).site m))
  | _ => none

/-- The mention that the last node of a path makes. -/
def mentionFrom (path : List Node) : Option Mention :=
  let mention (name : String) (kind : MentionKind) (span : Span) (exported : Bool) : Mention :=
    { name := name, scope := (Whereabouts.ofPath path).scope, kind := kind, line := span.line
      exported := exported, routine := (Whereabouts.ofPath path).routineName }
  match path.getLast? with
  | some (.parameter p) => some (mention p.name .parameter p.span false)
  | some (.declaration d) => some (mention d.name .declaration d.span d.exported)
  | some (.reference r) => some (mention r.name .usage r.span false)
  | _ => none

section Told

variable (m : Module)

/-- A hook is shown the nodes of a module at the places that their paths tell. -/
theorem forall₂_seenAt_freeVisits {σ : Type} (hook : Hook Context σ) (name : String) (s : σ) :
    List.Forall₂ (SeenAt hook) m.outline.lineages
      (freeVisits surroundings hook m.outline (ofModule name) s) := by
  have htells : Tells (visitOf hook) Visit.node Visit.surroundings :=
    ⟨fun _ _ _ => rfl, fun _ _ _ => rfl⟩
  have htold : ∀ path, (enterAll surroundings (ofModule name) path).whereabouts = Whereabouts.ofPath path :=
    whereabouts_enterAll_ofModule name
  by_cases hentered : ∀ n c s, (hook n c s).entered = []
  · have hfollows : Follows surroundings (calm hook) SamePlace := follows_samePlace hentered
    have hplace := (forall₂_lineages hfollows (fun _ _ _ => rfl) htells m.outline (ofModule name)
      (ofModule name) s ⟨rfl, rfl, rfl, rfl, rfl⟩).1
    refine hplace.imp fun path v h => ?_
    have hseen := h.2.whereabouts_eq.trans (htold path)
    have hsame : SameSurround (enterAll surroundings (ofModule name) path) v.surroundings := { h.2 with }
    exact
      { (toldBy_enterAll name path).of_sameSurround hsame with
        node := h.1
        scopes := fun _ => congrArg Whereabouts.scopes hseen }
  · have hsurround := (forall₂_lineages (follows_sameSurround (calm hook)) (fun _ _ _ => rfl) htells
      m.outline (ofModule name) (ofModule name) s ⟨rfl, rfl, rfl, rfl⟩).1
    refine hsurround.imp fun path v h => ?_
    exact
      { (toldBy_enterAll name path).of_sameSurround h.2 with
        node := h.1
        scopes := fun h => absurd h hentered }

/-- What a hook is shown up to a panic is the beginning of what it would be shown without it. -/
theorem forall₂_seenAt_visits {σ : Type} (hook : Hook Context σ) (name : String) (s : σ) :
    List.Forall₂ (SeenAt hook)
      (m.outline.lineages.take (visits surroundings hook m.outline (ofModule name) s).length)
      (visits surroundings hook m.outline (ofModule name) s) := by
  have hfree := forall₂_seenAt_freeVisits m hook name s
  have hbegins : visits surroundings hook m.outline (ofModule name) s
      <+: freeVisits surroundings hook m.outline (ofModule name) s := by
    cases cut_walkOutline surroundings hook m.outline (ofModule name) s with
    | whole _ _ hall _ => simp only [hall, List.prefix_rfl]
    | stopped _ _ _ more _ _ _ _ hall => exact ⟨more, hall.symm⟩
  have htaken := List.forall₂_take (visits surroundings hook m.outline (ofModule name) s).length hfree
  rwa [← List.prefix_iff_eq_take.mp hbegins] at htaken

/-- Without a hook that enters scopes, the whole place is told by the path. -/
theorem forall₂_sightings_told (name : String) :
    List.Forall₂ (fun path x => path.getLast? = some x.1 ∧ x.2.whereabouts = Whereabouts.ofPath path)
      m.outline.lineages (sightings surroundings m.outline (ofModule name)) := by
  have htells : Tells (fun n c (_ : Unit) => (n, c)) (Prod.fst : Node × Context → Node) Prod.snd :=
    ⟨fun _ _ _ => rfl, fun _ _ _ => rfl⟩
  have hplace := (forall₂_lineages (follows_samePlace quiet_idleHook.entered_eq_nil)
    quiet_idleHook.panic_eq_none htells m.outline (ofModule name) (ofModule name) ()
    ⟨rfl, rfl, rfl, rfl, rfl⟩).1
  exact hplace.imp fun path x h => ⟨h.1, h.2.whereabouts_eq.trans (whereabouts_enterAll_ofModule name path)⟩

/-- Selections that agree entry by entry are equal. -/
theorem filterMap_eq_of_forall₂ {α β δ : Type} {f : α → Option δ} {g : β → Option δ} {xs : List α}
    {ys : List β} (h : List.Forall₂ (fun x y => f x = g y) xs ys) : xs.filterMap f = ys.filterMap g := by
  induction h with
  | nil => rfl
  | cons hhead _ ih => rw [List.filterMap_cons, List.filterMap_cons, hhead, ih]

/-- The looks of a walk are told by the paths. -/
theorem filterMap_lookAt?_eq (name : String) :
    (sightings surroundings m.outline (ofModule name)).filterMap (lookAt? (some m))
      = m.outline.lineages.filterMap (lookFrom m) := by
  symm
  apply filterMap_eq_of_forall₂
  refine (forall₂_sightings_told m name).imp fun path x h => ?_
  obtain ⟨n, c⟩ := x
  rw [lookFrom, h.1, ← h.2]
  cases n <;> rfl

/-- The mentions of a walk are told by the paths. -/
theorem filterMap_ofNode?_eq (name : String) :
    (sightings surroundings m.outline (ofModule name)).filterMap (fun x => Mention.ofNode? x.1 x.2)
      = m.outline.lineages.filterMap mentionFrom := by
  symm
  apply filterMap_eq_of_forall₂
  refine (forall₂_sightings_told m name).imp fun path x h => ?_
  obtain ⟨n, c⟩ := x
  rw [mentionFrom, h.1, ← h.2]
  cases n <;> rfl

/-- Nodes inside a module add their mentions one after another. -/
theorem foldl_observe_mentions (xs : List (Node × Context)) (hxs : ∀ x ∈ xs, x.1.kind ≠ .module)
    (before : List Mention) :
    xs.foldl (fun t x => Mentions.observe x.1 x.2 t) before
      = before ++ xs.filterMap fun x => Mention.ofNode? x.1 x.2 := by
  induction xs generalizing before with
  | nil => simp
  | cons x rest ih =>
    obtain ⟨n, c⟩ := x
    have hn : n.kind ≠ .module := hxs (n, c) List.mem_cons_self
    have hobserve : Mentions.observe n c before = before ++ (Mention.ofNode? n c).toList := by
      cases n with
      | module m => exact absurd rfl hn
      | _ => rfl
    rw [List.foldl_cons, hobserve, ih fun y hy => hxs y (List.mem_cons_of_mem _ hy), List.filterMap_cons]
    cases Mention.ofNode? n c <;> simp

/-- The module starts the mentions afresh, and each node after it adds its own. -/
theorem foldl_observe_mentions_sightings (name : String) (before : List Mention) :
    (sightings surroundings m.outline (ofModule name)).foldl
        (fun t x => Mentions.observe x.1 x.2 t) before
      = m.outline.lineages.filterMap mentionFrom := by
  rw [← filterMap_ofNode?_eq m name]
  obtain ⟨c, rest, hsightings, hrest⟩ := exists_sightings_eq m (ofModule name)
  rw [hsightings, List.foldl_cons, foldl_observe_mentions rest hrest]
  rfl

end Told

/-- In a module walked from a fresh context, what a hook sees at a node is told by the nodes from the module down to
it. The scopes and the routine are those of the function or procedure that the node is or lies in, and of none at
module level. The node is in a loop or in a condition exactly if one of these nodes is one. The routine, the loop and
the condition do not depend on the hook, and the scopes do not as long as it enters none itself. Rules are called with
sites that say this, whatever they answer, and the mentions of variables have these scopes and routines. -/
theorem context_told_by_ancestors (m : Module) :
    ∃ (addresses : List (List Nat)) (paths : List (List Node)),
      Enumerates (Node.module m).path? addresses paths
      ∧ (∀ path ∈ paths,
          Standing m path (Whereabouts.ofPath path).scopes (Whereabouts.ofPath path).routine
          ∧ ((Whereabouts.ofPath path).function? = none ∨ (Whereabouts.ofPath path).procedure? = none)
          ∧ ((Whereabouts.ofPath path).inLoop = true ↔ ∃ n ∈ path, n.isLoop = true)
          ∧ ((Whereabouts.ofPath path).inCondition = true ↔ ∃ n ∈ path, n.isCondition = true))
      ∧ (∀ (σ : Type) (hook : Hook Context σ) (name : String) (s : σ),
          List.Forall₂ (SeenAt hook)
            (paths.take (visits surroundings hook m.outline (ofModule name) s).length)
            (visits surroundings hook m.outline (ofModule name) s))
      ∧ (∀ (name : String) (before : List Mention),
          (walk surroundings Mentions.hook (some m.outline) (ofModule name) before).state
            = paths.filterMap mentionFrom)
      ∧ ∀ (answers : Answers) (rules : List Rule) (options : EngineOptions),
          let looks := paths.filterMap (lookFrom m) ++ [.facts (factsOf options m)]
          let analysis := analyzeWith (Observers.standard options) answers rules options (some m)
          analysis.violations
              = Violation.sort ((transcript answers 0 (calls rules looks)).flatMap fun x => x.2.violations)
            ∧ analysis.checkerErrors = failedCalls (transcript answers 0 (calls rules looks))
            ∧ analysis.facts.mentions = paths.filterMap mentionFrom := by
  obtain ⟨addresses, henumerates⟩ := exists_enumerates (.module m)
  refine ⟨addresses, m.outline.lineages, henumerates, ?_, ?_, ?_, ?_⟩
  · intro path hpath
    have hfound : some path ∈ addresses.map (Node.module m).path? := by
      rw [henumerates.map_eq]
      exact List.mem_map_of_mem hpath
    obtain ⟨address, -, haddress⟩ := List.mem_map.mp hfound
    have hstanding := standing_ofPath haddress
    refine ⟨hstanding, ?_, List.any_eq_true, List.any_eq_true⟩
    unfold Whereabouts.function? Whereabouts.procedure?
    cases (Whereabouts.ofPath path).routine with
    | none => exact .inl rfl
    | some x =>
      obtain ⟨kind, r⟩ := x
      cases kind with
      | function => exact .inr rfl
      | procedure => exact .inl rfl
  · intro σ hook name s
    exact forall₂_seenAt_visits m hook name s
  · intro name before
    have hquiet : Quiet Mentions.hook :=
      { panic_eq_none := fun _ _ _ => rfl, entered_eq_nil := fun _ _ _ => rfl }
    show (walkOutline surroundings Mentions.hook m.outline (ofModule name) before).state = _
    rw [walkOutline_quiet surroundings hquiet]
    exact foldl_observe_mentions_sightings m name before
  · intro answers rules options
    have hlooks : looks options m
        = m.outline.lineages.filterMap (lookFrom m) ++ [.facts (factsOf options m)] := by
      rw [looks, filterMap_lookAt?_eq]
    have hmentions : (Engine.gathered answers rules options m).mentions
        = m.outline.lineages.filterMap mentionFrom := by
      rw [← foldl_observe_mentions_sightings m m.name []]
      exact Engine.view_walked answers rules options m (fun s => s.state.mentions) _ fun _ _ => rfl
    obtain ⟨hviolations, herrors⟩ := checked_analyzeWith answers rules options m
    rw [hlooks] at hviolations herrors
    exact ⟨hviolations, herrors, hmentions⟩

end ModuleLint
