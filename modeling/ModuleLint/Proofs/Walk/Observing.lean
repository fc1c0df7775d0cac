import ModuleLint.Walk.Basic

/-!
# What an observer makes of a walk

A hook that never panics is shown all nodes of an outline in order. Whatever it keeps in a part of
its state by looking at the nodes alone is then a fold over the nodes (`walkOutline_observes`).

Inside of a routine there are no further modules and routines (`headless_children`). An observer that
looks at nothing else therefore sees a module and then its routines one by one
(`foldl_nodes_module`).
-/

set_option autoImplicit false

namespace ModuleLint

/-- A hook never panics, and what it does to a part of its state depends on the node alone. -/
structure Observes {γ σ τ : Type} (hook : Hook γ σ) (view : σ → τ) (step : Node → τ → τ) :
    Prop where
  panic_eq_none : ∀ n g s, (hook n g s).panic = none
  view_state : ∀ n g s, view (hook n g s).state = step n (view s)

section Walk

variable {γ σ τ : Type} (sur : Surroundings γ) {hook : Hook γ σ} {view : σ → τ}
  {step : Node → τ → τ}

mutual

/-- A walk is not stopped, and what is observed on it adds up node by node. -/
theorem walkOutline_observes (h : Observes hook view step) : ∀ (o : Outline) (g : γ) (s : σ),
    (walkOutline sur hook o g s).panic = none
      ∧ view (walkOutline sur hook o g s).state = o.nodes.foldl (fun t n => step n t) (view s)
  | .node n children, g, s => by
    obtain ⟨hpanic, hview⟩ := walkOutlines_observes h children
      (visit sur hook n (sur.enter n g) s).surroundings (visit sur hook n (sur.enter n g) s).state
    have hvisit : (visit sur hook n (sur.enter n g) s).panic = none := h.panic_eq_none n _ s
    have hstep : view (visit sur hook n (sur.enter n g) s).state = step n (view s) :=
      h.view_state n _ s
    rw [Outline.nodes, List.foldl_cons, ← hstep]
    simp only [walkOutline, within, Progress.andThen, hvisit]
    exact ⟨hpanic, hview⟩

/-- What is observed on a walk of trees side by side adds up node by node. -/
theorem walkOutlines_observes (h : Observes hook view step) :
    ∀ (os : List Outline) (g : γ) (s : σ),
      (walkOutlines sur hook os g s).panic = none
        ∧ view (walkOutlines sur hook os g s).state
          = (nodesOfAll os).foldl (fun t n => step n t) (view s)
  | [], g, s => ⟨rfl, rfl⟩
  | o :: rest, g, s => by
    obtain ⟨hfirst, hview⟩ := walkOutline_observes h o g s
    obtain ⟨hpanic, hrest⟩ := walkOutlines_observes h rest
      (walkOutline sur hook o g s).surroundings (walkOutline sur hook o g s).state
    unfold walkOutlines Progress.andThen
    rw [hfirst, nodesOfAll, List.foldl_append, ← hview]
    exact ⟨hpanic, hrest⟩

end

end Walk

/-! ## The nodes of routines -/

/-- Whether a node stands for a module or for a routine. -/
def Node.isHead : Node → Bool
  | .module _ => true
  | .function _ => true
  | .procedure _ => true
  | _ => false

/-- None of the outlines has a module or a routine in it. -/
def Headless (os : List Outline) : Prop := ∀ n ∈ nodesOfAll os, n.isHead = false

/-- Where there are no trees there are no heads. -/
theorem headless_nil : Headless [] := by
  intro n hn
  cases hn

/-- Trees side by side hold no heads if none of them does. -/
theorem headless_append {os rest : List Outline} (hos : Headless os) (hrest : Headless rest) :
    Headless (os ++ rest) := by
  intro n hn
  rw [nodesOfAll_append, List.mem_append] at hn
  exact hn.elim (hos n) (hrest n)

/-- A node that is no head, above trees without heads, makes a tree without heads. -/
theorem headless_node {n : Node} {children : List Outline} (hn : n.isHead = false)
    (hchildren : Headless children) : Headless [.node n children] := by
  intro x hx
  rw [nodesOfAll, nodesOfAll, List.append_nil, Outline.nodes, List.mem_cons] at hx
  rcases hx with rfl | hx
  · exact hn
  · exact hchildren x hx

/-- A target is no head. -/
theorem headless_target (target : Option Reference) : Headless (outlineOfTarget target) := by
  cases target with
  | none => exact headless_nil
  | some r => exact headless_node rfl headless_nil

mutual

/-- Expressions hold no heads. -/
theorem headless_expr : ∀ e : Expr, Headless e.outline
  | .hole _ => headless_nil
  | .reference _ => headless_node rfl headless_nil
  | .binary _ _ left right =>
    headless_node rfl (headless_append (headless_expr left) (headless_expr right))
  | .literal _ => headless_node rfl headless_nil
  | .call _ _ arguments => headless_node rfl (headless_exprs arguments)
  | .generic _ => headless_node rfl headless_nil

/-- Several expressions hold no heads. -/
theorem headless_exprs : ∀ es : List Expr, Headless (outlineOfExprs es)
  | [] => headless_nil
  | e :: rest => headless_append (headless_expr e) (headless_exprs rest)

end

mutual

/-- Routines are not nested. -/
theorem headless_stmt : ∀ s : Stmt, Headless s.outline
  | .hole _ => headless_nil
  | .declare _ => headless_node rfl headless_nil
  | .assign a => headless_node rfl (headless_append (headless_target _) (headless_expr a.value))
  | .branch _ condition body alternatives otherwise =>
    headless_node rfl (headless_append (headless_append (headless_append (headless_expr condition)
      (headless_stmts body)) (headless_alternatives alternatives)) (headless_stmts otherwise))
  | .loopWhile _ condition body =>
    headless_node rfl (headless_append (headless_expr condition) (headless_stmts body))
  | .loopFor _ counter first last collection body =>
    headless_node rfl (headless_append (headless_append (headless_append (headless_append
      (headless_target counter) (headless_expr first)) (headless_expr last))
      (headless_expr collection)) (headless_stmts body))
  | .leave _ value => headless_node rfl (headless_expr value)
  | .call c => headless_node rfl (headless_exprs c.arguments)
  | .generic _ => headless_node rfl headless_nil

/-- The statements of a body hold no heads. -/
theorem headless_stmts : ∀ ss : List Stmt, Headless (outlineOfStmts ss)
  | [] => headless_nil
  | s :: rest => headless_append (headless_stmt s) (headless_stmts rest)

/-- Further conditions hold no heads. -/
theorem headless_alternatives : ∀ as : List Alternative, Headless (outlineOfAlternatives as)
  | [] => headless_nil
  | .mk condition body :: rest =>
    headless_append (headless_append (headless_expr condition) (headless_stmts body))
      (headless_alternatives rest)

end

/-- Nodes without children hold no heads, if they are none. -/
theorem headless_leaves {α : Type} {node : α → Node} (hnode : ∀ a, (node a).isHead = false)
    (slots : List (Option α)) :
    Headless (slots.filterMap fun a => a.map fun a => Outline.node (node a) []) := by
  induction slots with
  | nil => exact headless_nil
  | cons slot rest ih =>
    cases slot with
    | none => exact ih
    | some a => exact headless_append (headless_node (hnode a) headless_nil) ih

/-- No routine or module stands below a routine. -/
theorem headless_children (r : Routine) : Headless r.children :=
  headless_append (headless_leaves (fun _ => rfl) r.parameters) (headless_stmts r.body)

/-! ## The nodes of modules -/

/-- The nodes of several trees are those of each. -/
theorem mem_nodesOfAll {n : Node} {os : List Outline} :
    n ∈ nodesOfAll os ↔ ∃ o ∈ os, n ∈ o.nodes := by
  induction os with
  | nil => simp [nodesOfAll]
  | cons o rest ih => simp only [nodesOfAll, List.mem_append, ih, List.mem_cons, exists_eq_or_imp]

/-- What is no head is no module. -/
theorem kind_ne_module_of_not_isHead {n : Node} (h : n.isHead = false) : n.kind ≠ .module := by
  intro hkind
  cases n <;> cases hkind
  cases h

/-- No module stands inside a routine. -/
theorem kind_ne_module_of_mem_routine {r : Routine} {n head : Node} (hhead : head.kind ≠ .module)
    (hn : n ∈ (Outline.node head r.children).nodes) : n.kind ≠ .module := by
  rw [Outline.nodes, List.mem_cons] at hn
  rcases hn with rfl | hn
  · exact hhead
  · exact kind_ne_module_of_not_isHead (headless_children r n hn)

/-- Modules are not nested. -/
theorem Module.exists_outline_eq (m : Module) :
    ∃ below, m.outline = .node (.module m) below ∧ ∀ n ∈ nodesOfAll below, n.kind ≠ .module := by
  refine ⟨_, rfl, ?_⟩
  intro n hn
  obtain ⟨o, ho, hn⟩ := mem_nodesOfAll.mp hn
  simp only [List.mem_append, List.mem_filterMap, Option.map_eq_some_iff] at ho
  obtain (⟨_, _, d, _, rfl⟩ | ⟨_, _, r, _, rfl⟩) | ⟨_, _, r, _, rfl⟩ := ho
  · rw [Outline.nodes, nodesOfAll, List.mem_singleton] at hn
    subst hn
    exact Kind.noConfusion
  · exact kind_ne_module_of_mem_routine Kind.noConfusion hn
  · exact kind_ne_module_of_mem_routine Kind.noConfusion hn

/-! ## Observers of modules and routines -/

section Heads

variable {τ : Type} {step : Node → τ → τ}

/-- An observer of modules and routines makes nothing of other nodes. -/
theorem foldl_nodes_headless (hstep : ∀ n t, n.isHead = false → step n t = t) {os : List Outline}
    (hos : Headless os) (t : τ) : (nodesOfAll os).foldl (fun t n => step n t) t = t := by
  unfold Headless at hos
  generalize nodesOfAll os = ns at hos
  induction ns generalizing t with
  | nil => rfl
  | cons n rest ih =>
    rw [List.foldl_cons, hstep n t (hos n (List.mem_cons_self ..))]
    exact ih t fun x hx => hos x (List.mem_cons_of_mem n hx)

/-- Of routines it sees the routines alone. -/
theorem foldl_nodes_routines (hstep : ∀ n t, n.isHead = false → step n t = t)
    {outline : Routine → Outline} {node : Routine → Node}
    (houtline : ∀ r, outline r = .node (node r) r.children) (slots : List (Option Routine)) (t : τ) :
    (nodesOfAll (slots.filterMap fun r => r.map outline)).foldl (fun t n => step n t) t
      = (slots.filterMap id).foldl (fun t r => step (node r) t) t := by
  induction slots generalizing t with
  | nil => rfl
  | cons slot rest ih =>
    cases slot with
    | none => exact ih t
    | some r =>
      have hchildren := foldl_nodes_headless hstep (headless_children r) (step (node r) t)
      simp only [List.filterMap_cons, Option.map_some, id, nodesOfAll, houtline, Outline.nodes,
        List.cons_append, List.foldl_cons, List.foldl_append, hchildren, ih]

/-- Of a module it sees the module, then the functions, then the procedures. -/
theorem foldl_nodes_module (hstep : ∀ n t, n.isHead = false → step n t = t) (m : Module) (t : τ) :
    m.outline.nodes.foldl (fun t n => step n t) t
      = (m.procedures.filterMap id).foldl (fun t r => step (.procedure r) t)
          ((m.functions.filterMap id).foldl (fun t r => step (.function r) t)
            (step (.module m) t)) := by
  have hvariables := foldl_nodes_headless hstep
    (headless_leaves (fun _ => rfl : ∀ d, (Node.declaration d).isHead = false) m.declarations)
  have hfunction : ∀ r : Routine, r.functionOutline = .node (.function r) r.children := fun _ => rfl
  have hprocedure : ∀ r : Routine, r.procedureOutline = .node (.procedure r) r.children :=
    fun _ => rfl
  unfold Module.outline
  rw [Outline.nodes, List.foldl_cons, nodesOfAll_append, nodesOfAll_append, List.foldl_append,
    List.foldl_append, hvariables, foldl_nodes_routines hstep hprocedure,
    foldl_nodes_routines hstep hfunction]

end Heads

end ModuleLint
