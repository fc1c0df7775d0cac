import ModuleLint.Proofs.Safety.Rules
import ModuleLint.Proofs.Walk.Observing
import ModuleLint.Proofs.Walk.Restoration

/-!
# Careful walks

A careful walk looks at every slot before it visits the node in it, so holes of any kind are passed over
(`outlineOfModule_eq_ok`). Its observers gather the same facts as those of an analysis. That of the data flow does so as
long as it meets routines with not too many definitions, in the module that it was shown first.

Hooks that agree on the nodes of an outline lead to the same walk (`walkOutline_congr`). They need to agree only in
those states that the walk can be in. The scopes of routines are released within the bounds of their stack, whatever
the hooks have put on it (`walkOutline_certain`).
-/

set_option autoImplicit false

namespace ModuleLint

/-! ## Walks with hooks that agree -/

section Congruence

variable {γ σ : Type} (sur : Surroundings γ) {hook hook' : Hook γ σ} {P : σ → Prop}

/-- Two hooks agree on a node in all states that satisfy an invariant, and keep it. -/
def AgreesOn (hook hook' : Hook γ σ) (P : σ → Prop) (n : Node) : Prop :=
  ∀ g s, P s → hook n g s = hook' n g s ∧ P (hook' n g s).state

mutual

/-- Hooks that agree on the nodes of a tree, in the states that are reached, walk it in the same way. -/
theorem walkOutline_congr : ∀ (o : Outline) (g : γ) (s : σ), P s → (∀ n ∈ o.nodes, AgreesOn hook hook' P n) →
    walkOutline sur hook o g s = walkOutline sur hook' o g s ∧ P (walkOutline sur hook' o g s).state
  | .node n children, g, s, hs, h => by
    rw [Outline.nodes, List.forall_mem_cons] at h
    obtain ⟨hn, hP⟩ := h.1 (sur.enter n g) s hs
    exact walkNode_congr n children g s hn hP h.2

/-- The hooks may do at the root what they like, as long as it is the same and leads to the invariant. -/
theorem walkNode_congr : ∀ (n : Node) (children : List Outline) (g : γ) (s : σ),
    hook n (sur.enter n g) s = hook' n (sur.enter n g) s → P (hook' n (sur.enter n g) s).state →
    (∀ x ∈ nodesOfAll children, AgreesOn hook hook' P x) →
    walkOutline sur hook (.node n children) g s = walkOutline sur hook' (.node n children) g s
      ∧ P (walkOutline sur hook' (.node n children) g s).state
  | n, children, g, s, hn, hP, h => by
    have hvisit : visit sur hook n (sur.enter n g) s = visit sur hook' n (sur.enter n g) s := by
      unfold visit
      rw [hn]
    have hbelow := walkOutlines_congr children (visit sur hook' n (sur.enter n g) s).surroundings
      (visit sur hook' n (sur.enter n g) s).state hP h
    simp only [walkOutline, within, Progress.andThen, hvisit]
    cases (visit sur hook' n (sur.enter n g) s).panic with
    | some p => exact ⟨rfl, hP⟩
    | none =>
      simp only [hbelow.1]
      exact ⟨trivial, hbelow.2⟩

/-- Hooks that agree on the nodes of some trees, in the states that are reached, walk them in the same way. -/
theorem walkOutlines_congr : ∀ (os : List Outline) (g : γ) (s : σ), P s →
    (∀ n ∈ nodesOfAll os, AgreesOn hook hook' P n) →
    walkOutlines sur hook os g s = walkOutlines sur hook' os g s ∧ P (walkOutlines sur hook' os g s).state
  | [], g, s, hs, _ => ⟨rfl, hs⟩
  | o :: rest, g, s, hs, h => by
    rw [nodesOfAll, List.forall_mem_append] at h
    obtain ⟨hfirst, hP⟩ := walkOutline_congr o g s hs h.1
    have hrest := walkOutlines_congr rest (walkOutline sur hook' o g s).surroundings
      (walkOutline sur hook' o g s).state hP h.2
    simp only [walkOutlines, Progress.andThen, hfirst]
    cases (walkOutline sur hook' o g s).panic with
    | some p => exact ⟨rfl, hP⟩
    | none => exact hrest

end

end Congruence

namespace Careful

open ModuleLint.Flow

/-! ## Outlines -/

mutual

/-- The outline of an expression. There is no way to visit a hole. -/
def outlineOfExpr (e : Expr) : Careful (List Outline) :=
  if !e.isPresent then .ok []
  else match e with
    | .hole _ => .error .nilDereference
    | .reference r => .ok [r.outline]
    | .binary span operator left right => do
      let first ← outlineOfExpr left
      let second ← outlineOfExpr right
      return [.node (.binaryOperation span operator left right) (first ++ second)]
    | .literal l => .ok [.node (.literal l) []]
    | .call span name arguments => do
      let below ← outlineOfExprs arguments
      return [.node (.call { span := span, name := name, arguments := arguments }) below]
    | .generic g => .ok [.node (.expression g) []]

def outlineOfExprs : List Expr → Careful (List Outline)
  | [] => .ok []
  | e :: rest => do
    let first ← outlineOfExpr e
    let others ← outlineOfExprs rest
    return first ++ others

end

def outlineOfTarget (target : Option Reference) : Careful (List Outline) :=
  ifPresent target [] fun r => .ok [r.outline]

mutual

def outlineOfStmt (s : Stmt) : Careful (List Outline) :=
  if !isPresent s then .ok []
  else match s with
    | .hole _ => .error .nilDereference
    | .declare d => .ok [.node (.declaration d) []]
    | .assign a => do
      let target ← outlineOfTarget a.target
      let value ← outlineOfExpr a.value
      return [.node (.assignment a) (target ++ value)]
    | .branch span condition body alternatives otherwise => do
      let test ← outlineOfExpr condition
      let first ← outlineOfStmts body
      let others ← outlineOfAlternatives alternatives
      let last ← outlineOfStmts otherwise
      return [.node (.ifStatement span condition body alternatives otherwise) (test ++ first ++ others ++ last)]
    | .loopWhile span condition body => do
      let test ← outlineOfExpr condition
      let below ← outlineOfStmts body
      return [.node (.whileLoop span condition body) (test ++ below)]
    | .loopFor span counter first last collection body => do
      let count ← outlineOfTarget counter
      let lower ← outlineOfExpr first
      let upper ← outlineOfExpr last
      let members ← outlineOfExpr collection
      let below ← outlineOfStmts body
      return [.node (.forLoop span counter first last collection body) (count ++ lower ++ upper ++ members ++ below)]
    | .leave span value => do
      let below ← outlineOfExpr value
      return [.node (.returnStatement span value) below]
    | .call c => do
      let below ← outlineOfExprs c.arguments
      return [.node (.call c) below]
    | .generic g => .ok [.node (.expression g) []]

def outlineOfStmts : List Stmt → Careful (List Outline)
  | [] => .ok []
  | s :: rest => do
    let first ← outlineOfStmt s
    let others ← outlineOfStmts rest
    return first ++ others

def outlineOfAlternatives : List Alternative → Careful (List Outline)
  | [] => .ok []
  | .mk condition body :: rest => do
    let test ← outlineOfExpr condition
    let first ← outlineOfStmts body
    let others ← outlineOfAlternatives rest
    return test ++ first ++ others

end

def outlineOfRoutine (node : Routine → Node) (r : Routine) : Careful Outline := do
  let parameters ← present r.parameters
  let below ← outlineOfStmts r.body
  return .node (node r) ((parameters.map fun p => .node (.parameter p) []) ++ below)

def outlineOfModule (m : Module) : Careful Outline := do
  let declarations ← present m.declarations
  let functions ← present m.functions
  let procedures ← present m.procedures
  let ofFunctions ← map (outlineOfRoutine .function) functions
  let ofProcedures ← map (outlineOfRoutine .procedure) procedures
  return .node (.module m) ((declarations.map fun d => .node (.declaration d) []) ++ ofFunctions ++ ofProcedures)

mutual

/-- Outlining an expression has no fault, by the recursion over its parts. -/
theorem outlineOfExpr_eq_ok : ∀ e : Expr, outlineOfExpr e = .ok e.outline
  | .hole _ => rfl
  | .reference _ => rfl
  | .binary _ _ left right => by
    rw [Expr.outline]
    show (outlineOfExpr left >>= _) = _
    rw [outlineOfExpr_eq_ok left, ok_bind, outlineOfExpr_eq_ok right]
    rfl
  | .literal _ => rfl
  | .call _ _ arguments => by
    rw [Expr.outline]
    show (outlineOfExprs arguments >>= _) = _
    rw [outlineOfExprs_eq_ok arguments]
    rfl
  | .generic _ => rfl

/-- Outlining expressions one after another has no fault. -/
theorem outlineOfExprs_eq_ok : ∀ es : List Expr, outlineOfExprs es = .ok (ModuleLint.outlineOfExprs es)
  | [] => rfl
  | e :: rest => by
    rw [outlineOfExprs, outlineOfExpr_eq_ok e, ok_bind, outlineOfExprs_eq_ok rest]
    rfl

end

/-- Outlining a target has no fault, and a missing one has no outline. -/
theorem outlineOfTarget_eq_ok (target : Option Reference) :
    outlineOfTarget target = .ok (ModuleLint.outlineOfTarget target) := by
  cases target with
  | none => rfl
  | some r => rfl

mutual

/-- Outlining a statement has no fault, by the recursion over its parts. -/
theorem outlineOfStmt_eq_ok : ∀ s : Stmt, outlineOfStmt s = .ok s.outline
  | .hole _ => rfl
  | .declare _ => rfl
  | .assign a => by
    rw [Stmt.outline]
    show (outlineOfTarget a.target >>= _) = _
    rw [outlineOfTarget_eq_ok, ok_bind, outlineOfExpr_eq_ok]
    rfl
  | .branch _ condition body alternatives otherwise => by
    rw [Stmt.outline]
    show (outlineOfExpr condition >>= _) = _
    rw [outlineOfExpr_eq_ok, ok_bind, outlineOfStmts_eq_ok body, ok_bind, outlineOfAlternatives_eq_ok alternatives,
      ok_bind, outlineOfStmts_eq_ok otherwise]
    rfl
  | .loopWhile _ condition body => by
    rw [Stmt.outline]
    show (outlineOfExpr condition >>= _) = _
    rw [outlineOfExpr_eq_ok, ok_bind, outlineOfStmts_eq_ok body]
    rfl
  | .loopFor _ counter first last collection body => by
    rw [Stmt.outline]
    show (outlineOfTarget counter >>= _) = _
    rw [outlineOfTarget_eq_ok, ok_bind, outlineOfExpr_eq_ok, ok_bind, outlineOfExpr_eq_ok, ok_bind, outlineOfExpr_eq_ok,
      ok_bind, outlineOfStmts_eq_ok body]
    rfl
  | .leave _ value => by
    rw [Stmt.outline]
    show (outlineOfExpr value >>= _) = _
    rw [outlineOfExpr_eq_ok]
    rfl
  | .call c => by
    rw [Stmt.outline]
    show (outlineOfExprs c.arguments >>= _) = _
    rw [outlineOfExprs_eq_ok]
    rfl
  | .generic _ => rfl

/-- Outlining statements one after another has no fault. -/
theorem outlineOfStmts_eq_ok : ∀ ss : List Stmt, outlineOfStmts ss = .ok (ModuleLint.outlineOfStmts ss)
  | [] => rfl
  | s :: rest => by
    rw [outlineOfStmts, outlineOfStmt_eq_ok s, ok_bind, outlineOfStmts_eq_ok rest]
    rfl

/-- Outlining further conditions one after another has no fault. -/
theorem outlineOfAlternatives_eq_ok :
    ∀ as : List Alternative, outlineOfAlternatives as = .ok (ModuleLint.outlineOfAlternatives as)
  | [] => rfl
  | .mk condition body :: rest => by
    rw [outlineOfAlternatives, outlineOfExpr_eq_ok, ok_bind, outlineOfStmts_eq_ok body, ok_bind,
      outlineOfAlternatives_eq_ok rest]
    rfl

end

/-- Passing over missing entries may come first. -/
theorem filterMap_map_eq {α β : Type} (f : α → β) (xs : List (Option α)) :
    (xs.filterMap fun x => x.map f) = (xs.filterMap id).map f := by
  rw [List.map_filterMap]
  rfl

/-- Outlining a routine of either kind has no fault. -/
theorem outlineOfRoutine_eq_ok (node : Routine → Node) (r : Routine) :
    outlineOfRoutine node r = .ok (.node (node r) r.children) := by
  unfold outlineOfRoutine Routine.children outlineOfParameters
  rw [present_eq_ok, ok_bind, outlineOfStmts_eq_ok, ok_bind, filterMap_map_eq]
  rfl

/-- Whatever is missing in a module, it is passed over. -/
theorem outlineOfModule_eq_ok (m : Module) : outlineOfModule m = .ok m.outline := by
  unfold outlineOfModule Module.outline
  rw [present_eq_ok, ok_bind, present_eq_ok, ok_bind, present_eq_ok, ok_bind,
    map_eq_ok fun r _ => outlineOfRoutine_eq_ok .function r, ok_bind,
    map_eq_ok fun r _ => outlineOfRoutine_eq_ok .procedure r, ok_bind, filterMap_map_eq, filterMap_map_eq,
    filterMap_map_eq]
  rfl

/-! ## Contexts -/

/-- Goes back to a height of a stack of scopes, where there are so many cells. -/
def release (s : ScopeStack) (height : Nat) : Careful ScopeStack :=
  if height ≤ s.cells.length then .ok (s.release height) else .error (.index height s.cells.length)

def leave (n : Node) (before after : Context) : Careful Context :=
  match n with
  | .function _ | .procedure _ => do
    let stack ← release after.stack before.stack.height
    return { after with stack := stack, function? := before.function?, procedure? := before.procedure? }
  | _ => .ok (Context.leave n before after)

/-- A walk keeps the context of each node, or the fault that lost it. -/
def surroundings : Surroundings (Careful Context) :=
  { enter := fun n c => Context.enter n <$> c
    leave := fun n before after => do
      let before ← before
      let after ← after
      leave n before after
    push := fun name c => Context.surroundings.push name <$> c }

section Contexts

variable {σ : Type} (hook : Hook Context σ)

/-- A hook for careful contexts. It panics with the fault if there is no context. -/
def watch : Hook (Careful Context) σ := fun n c s =>
  match c with
  | .ok c => hook n c s
  | .error fault => { state := s, panic := some fault.panic }

/-- Where a walk has got to, with a context that was not lost. -/
def certain (p : Progress Context σ) : Progress (Careful Context) σ :=
  { surroundings := .ok p.surroundings, state := p.state, panic := p.panic }

/-- A visit in surroundings that are certain is the visit. -/
theorem visit_certain (n : Node) (c : Context) (s : σ) :
    ModuleLint.visit surroundings (watch hook) n (.ok c) s
      = certain (ModuleLint.visit Context.surroundings hook n c s) := by
  have hpush : ∀ (names : List String) (c : Context),
      names.foldl (fun g name => surroundings.push name g) (.ok c)
        = .ok (names.foldl (fun g name => Context.surroundings.push name g) c) := by
    intro names
    induction names with
    | nil => exact fun _ => rfl
    | cons name rest ih => exact fun c => ih (Context.surroundings.push name c)
  unfold ModuleLint.visit certain
  simp only [watch, hpush]

/-- Certain progress goes on as progress does. -/
theorem andThen_certain (p : Progress Context σ) {next : Context → σ → Progress Context σ}
    {next' : Careful Context → σ → Progress (Careful Context) σ} (h : ∀ c s, next' (.ok c) s = certain (next c s)) :
    (certain p).andThen next' = certain (p.andThen next) := by
  unfold Progress.andThen
  cases hpanic : p.panic with
  | some cause => simp only [certain, hpanic]
  | none => simp only [certain, hpanic, h]

/-- A stack that only grows inside of a routine has enough cells at its end. -/
theorem leave_eq_ok {n : Node} {c after : Context} (h : (Context.enter n c).LeadsTo after) :
    leave n c after = .ok (Context.leave n c after) := by
  have hrelease : c.stack.scopes <+: after.stack.scopes →
      release after.stack c.stack.height = .ok (after.stack.release c.stack.height) := by
    intro hscopes
    have hle := hscopes.length_le
    rw [ScopeStack.length_scopes, ScopeStack.length_scopes] at hle
    exact if_pos (Nat.le_trans hle after.stack.height_le)
  cases n with
  | function r =>
    unfold leave
    rw [hrelease (h.scopes_of_enterRoutine .function r)]
    rfl
  | procedure r =>
    unfold leave
    rw [hrelease (h.scopes_of_enterRoutine .procedure r)]
    rfl
  | _ => rfl

/-- Surroundings that are entered can be left again. -/
theorem within_certain {n : Node} {c : Context} {s : σ} {body : Context → σ → Progress Context σ}
    {body' : Careful Context → σ → Progress (Careful Context) σ}
    (hbody : body' (.ok (Context.enter n c)) s = certain (body (Context.enter n c) s))
    (hleads : (Context.enter n c).LeadsTo (body (Context.enter n c) s).surroundings) :
    within surroundings n body' (.ok c) s = certain (within Context.surroundings n body c s) := by
  have henter : surroundings.enter n (.ok c) = .ok (Context.enter n c) := rfl
  unfold within
  rw [henter, hbody]
  exact congrArg (fun after => Progress.mk after _ _) (leave_eq_ok hleads)

mutual

/-- No context is lost on a walk. -/
theorem walkOutline_certain : ∀ (o : Outline) (c : Context) (s : σ),
    walkOutline surroundings (watch hook) o (.ok c) s = certain (walkOutline Context.surroundings hook o c s)
  | .node n children, c, s => by
    have hbody := andThen_certain (ModuleLint.visit Context.surroundings hook n (Context.enter n c) s)
      (walkOutlines_certain children)
    rw [← visit_certain] at hbody
    unfold walkOutline
    apply within_certain
    · exact hbody
    · exact Context.keeps_leadsTo.inside hook n children (Context.enter n c) s fun _ _ => trivial

/-- A walk with careful surroundings is the walk. -/
theorem walkOutlines_certain : ∀ (os : List Outline) (c : Context) (s : σ),
    walkOutlines surroundings (watch hook) os (.ok c) s = certain (walkOutlines Context.surroundings hook os c s)
  | [], c, s => rfl
  | o :: rest, c, s => by
    unfold walkOutlines
    rw [walkOutline_certain o c s]
    exact andThen_certain _ (walkOutlines_certain rest)

end

end Contexts

/-! ## Observers -/

/-- How an observer reacts: a fault leaves it as it was. -/
def react {σ : Type} (old : σ) : Careful σ → Reaction σ
  | .ok new => { state := new }
  | .error fault => { state := old, panic := some fault.panic }

/-- Notes down a routine. -/
def declare (facts : RoutineFacts) (kind : RoutineKind) (r : Routine) : Careful RoutineFacts := do
  let l ← line r.span
  let n ← length r.span
  let fact : RoutineFact := { name := r.name, kind := kind, line := l, exported := r.exported, length := n
                              declaration := r }
  return { facts with routines := facts.routines ++ [fact]
                      byNode := facts.byNode.put (r.node kind) facts.routines.length }

/-- Changes what is known of the routine around the current node, if its node is known and has facts. -/
def updateCurrent (facts : RoutineFacts) (c : Context) (f : RoutineFact → Careful RoutineFact) :
    Careful RoutineFacts :=
  ifPresent (facts.currentPlace? c) facts fun place =>
    ifPresent facts.routines[place]? facts fun current => do
      let changed ← f current
      return { facts with routines := facts.routines.set place changed }

def addCall (facts : RoutineFacts) (c : Context) (callee : String) : Careful RoutineFacts :=
  ifPresent (facts.current? c) facts fun current =>
    if callee == "" then .ok facts
    else
      let added := facts.graph.addCall current.name callee
      let facts := { facts with graph := added.1 }
      if added.2 then updateCurrent facts c fun f => .ok { f with calls := f.calls ++ [callee] } else .ok facts

def observeRoutines (n : Node) (c : Context) (facts : RoutineFacts) : Careful RoutineFacts :=
  match n with
  | .module _ => .ok RoutineFacts.empty
  | .function r => declare facts .function r
  | .procedure r => declare facts .procedure r
  | .parameter p => updateCurrent facts c fun f =>
      .ok { f with parameters := f.parameters ++
              [{ name := p.name, byValue := p.byValue, hasDefault := p.hasDefault }] }
  | .returnStatement span value => updateCurrent facts c fun f => do
      let l ← line span
      return { f with returns := f.returns ++ [{ line := l, hasValue := value.isPresent }] }
  | .call call => addCall facts c call.name
  | _ => .ok facts

/-- The callees in front of the ranking, where the ranking is cut off only if it is longer. -/
def mostCalled (g : CallGraph) (limit : Int) : Careful (List CallCount) :=
  if limit > 0 && g.ranking.length > limit then front g.ranking limit.toNat else .ok g.ranking

/-- Notes down a mention of a variable. -/
def mention (mentions : List Mention) (c : Context) (name : String) (kind : MentionKind) (span : Span)
    (exported : Bool) : Careful (List Mention) := do
  let l ← line span
  let routine ← ifPresent c.routine "" fun r => .ok r.2.name
  return mentions ++
    [{ name := name, scope := c.scope, kind := kind, line := l, exported := exported, routine := routine }]

def observeMentions (n : Node) (c : Context) (mentions : List Mention) : Careful (List Mention) :=
  match n with
  | .module _ => .ok []
  | .parameter p => mention mentions c p.name .parameter p.span false
  | .declaration d => mention mentions c d.name .declaration d.span d.exported
  | .reference r => mention mentions c r.name .usage r.span false
  | _ => .ok mentions

/-- Analyses one more routine. A budget that is used up is no fault. -/
def addResult (budget : Nat) (f : Findings) (kind : RoutineKind) (r : Routine) : Careful Findings := do
  let outcome ← analyzeRoutine budget f.module? kind r
  return match outcome with
    | .ok result => { f with results := f.results ++ [result], byNode := f.byNode.put (r.node kind) result }
    | .error e => { f with errors := f.errors ++ [e] }

def observeFlow (budget : Nat) (n : Node) (f : Findings) : Careful Findings :=
  match n with
  | .module m => .ok (Findings.start m)
  | .function r => addResult budget f .function r
  | .procedure r => addResult budget f .procedure r
  | _ => .ok f

/-- The careful observers of an analysis. -/
def observers (options : EngineOptions) : Observers :=
  { routines := fun n c facts => react facts (observeRoutines n c facts)
    mentions := fun n c mentions => react mentions (observeMentions n c mentions)
    flow := fun n _ f => react f (observeFlow (budgetOf options.maxIterations) n f) }

/-- A note about the routine around a node goes to an entry that exists. -/
theorem updateCurrent_eq_ok (facts : RoutineFacts) (c : Context) {f : RoutineFact → Careful RoutineFact}
    {g : RoutineFact → RoutineFact} (h : ∀ x, f x = .ok (g x)) :
    updateCurrent facts c f = .ok (facts.updateCurrent c g) := by
  unfold updateCurrent RoutineFacts.updateCurrent
  cases facts.currentPlace? c with
  | none => rfl
  | some place =>
    simp only [ifPresent_some, List.modify_eq_set_getElem?]
    cases facts.routines[place]? with
    | none => rfl
    | some current =>
      rw [ifPresent_some, h, ok_bind]
      rfl

/-- A call within a routine goes to an entry that exists. -/
theorem addCall_eq_ok (facts : RoutineFacts) (c : Context) (callee : String) :
    addCall facts c callee = .ok (facts.addCall c callee) := by
  unfold addCall RoutineFacts.addCall
  cases facts.current? c with
  | none => rfl
  | some current =>
    simp only [ifPresent_some]
    split
    · rfl
    · split
      · exact updateCurrent_eq_ok _ c fun _ => rfl
      · rfl

/-- Routines are noted down without a fault. -/
theorem observeRoutines_eq_ok (n : Node) (c : Context) (facts : RoutineFacts) :
    observeRoutines n c facts = .ok (RoutineFacts.observe n c facts) := by
  have hdeclare : ∀ kind r, declare facts kind r = .ok (facts.declare kind r) := by
    intro kind r
    unfold declare
    rw [line_eq_ok, ok_bind, length_eq_ok]
    rfl
  cases n with
  | function r => exact hdeclare .function r
  | procedure r => exact hdeclare .procedure r
  | parameter p => exact updateCurrent_eq_ok facts c fun _ => rfl
  | returnStatement span value =>
    apply updateCurrent_eq_ok
    intro f
    rw [line_eq_ok]
    rfl
  | call call => exact addCall_eq_ok facts c call.name
  | _ => rfl

/-- The most called routines are cut off within the ranking. -/
theorem mostCalled_eq_ok (g : CallGraph) (limit : Int) : mostCalled g limit = .ok (g.mostCalled limit) := by
  unfold mostCalled CallGraph.mostCalled
  by_cases hpos : limit > 0
  · rw [decide_eq_true hpos, Bool.true_and, if_pos hpos]
    by_cases hlong : g.ranking.length > limit
    · have hle : limit.toNat ≤ g.ranking.length := by omega
      rw [if_pos (decide_eq_true hlong), front_eq_ok hle]
    · have hle : g.ranking.length ≤ limit.toNat := by omega
      rw [if_neg (by simpa using hlong), List.take_of_length_le hle]
  · rw [decide_eq_false hpos, Bool.false_and, if_neg Bool.false_ne_true, if_neg hpos]

/-- Mentions are noted down without a fault. -/
theorem observeMentions_eq_ok (n : Node) (c : Context) (mentions : List Mention) :
    observeMentions n c mentions = .ok (Mentions.observe n c mentions) := by
  have hmention : ∀ name kind span exported, mention mentions c name kind span exported
      = .ok (mentions ++ [Mention.inContext c name kind span exported]) := by
    intro name kind span exported
    unfold mention Mention.inContext Context.routineName
    rw [line_eq_ok, ok_bind]
    cases c.routine with
    | none => rfl
    | some around => rfl
  cases n with
  | module m => rfl
  | parameter p => exact hmention ..
  | declaration d => exact hmention ..
  | reference r => exact hmention ..
  | _ => exact congrArg Except.ok (List.append_nil mentions).symm

/-- The result of a routine is added without a fault if its definitions can be numbered. -/
theorem addResult_eq_ok (budget : Nat) (f : Findings) (kind : RoutineKind) (r : Routine)
    (h : (Graph.ofRoutine f.module? r).definitions.length ≤ Nat.pow 2 32) :
    addResult budget f kind r = .ok (f.add budget kind r) := by
  unfold addResult Findings.add
  rw [analyzeRoutine_eq_ok budget f.module? kind r h, ok_bind]
  cases Flow.analyzeRoutine budget f.module? kind r with
  | ok result => rfl
  | error e => rfl

/-- If the node is a routine, then it has no more definitions than there are numbers for them. -/
def FitsAt (m? : Option Module) : Node → Prop
  | .function r => (Graph.ofRoutine m? r).definitions.length ≤ Nat.pow 2 32
  | .procedure r => (Graph.ofRoutine m? r).definitions.length ≤ Nat.pow 2 32
  | _ => True

/-- The flow analysis observes a node that fits without a fault. -/
theorem observeFlow_eq_ok {n : Node} {f : Findings} (budget : Nat) (h : FitsAt f.module? n) :
    observeFlow budget n f = .ok (f.observe budget n) := by
  cases n with
  | function r => exact addResult_eq_ok budget f .function r h
  | procedure r => exact addResult_eq_ok budget f .procedure r h
  | _ => rfl

/-- The result of a routine does not change the module. -/
theorem module?_add (budget : Nat) (f : Findings) (kind : RoutineKind) (r : Routine) :
    (f.add budget kind r).module? = f.module? := by
  unfold Findings.add
  cases Flow.analyzeRoutine budget f.module? kind r with
  | ok result => rfl
  | error e => rfl

/-- No node inside a module changes it. -/
theorem module?_observe (budget : Nat) {n : Node} (f : Findings) (hn : n.kind ≠ .module) :
    (f.observe budget n).module? = f.module? := by
  cases n with
  | module m => exact absurd rfl hn
  | function r => exact module?_add budget f .function r
  | procedure r => exact module?_add budget f .procedure r
  | _ => rfl

/-! ## The hook of an analysis -/

section Hook

variable (s : RuleSettings) (options : EngineOptions)

/-- The checker with the careful rules is the checker with the rules. -/
theorem hook_active : Checker.hook Answers.own (active s) = Checker.hook Answers.own (Catalog.active s) := by
  have hrun : ∀ (l : Look) (state : CheckerState), SoundLook l →
      Checker.runAll Answers.own (active s) l state = Checker.runAll Answers.own (Catalog.active s) l state :=
    fun l state hl => runAll_eq_of_agreesAt (agreesAt_active s hl) state
  funext n c state
  unfold Checker.hook Checker.observe
  congr 1
  cases n with
  | module m => exact hrun (.module m) _ trivial
  | function r => exact hrun _ _ trivial
  | procedure r => exact hrun _ _ trivial
  | declaration d => exact hrun _ _ trivial
  | _ => rfl

/-- The hooks of a careful analysis and of a running one agree wherever the data flow fits. -/
theorem hook_eq {n : Node} (c : Context) {state : FanState EngineState} (h : FitsAt state.state.flow.module? n) :
    FanOut.hook (Engine.constituents (observers options) Answers.own (active s)) n c state
      = FanOut.hook (Engine.constituents (Observers.standard options) Answers.own (Catalog.active s)) n c state := by
  have hroutines : (observers options).routines = RoutineFacts.hook := by
    funext n c facts
    exact congrArg (react facts) (observeRoutines_eq_ok n c facts)
  have hmentions : (observers options).mentions = Mentions.hook := by
    funext n c mentions
    exact congrArg (react mentions) (observeMentions_eq_ok n c mentions)
  have hflow : (observers options).flow n c state.state.flow
      = (Observers.standard options).flow n c state.state.flow :=
    congrArg (react state.state.flow) (observeFlow_eq_ok _ h)
  unfold Engine.constituents
  rw [hroutines, hmentions, hook_active]
  -- the data flow is third, and what comes before it leaves its findings alone
  have hthird : ∀ r : Reaction (FanState EngineState), r.state.state.flow = state.state.flow →
      FanOut.dispatch n c r (2, { typeName := "data flow", hook := fun n c s =>
          ((observers options).flow n c s.flow).map fun x => { s with flow := x } })
        = FanOut.dispatch n c r (2, { typeName := "data flow", hook := fun n c s =>
          ((Observers.standard options).flow n c s.flow).map fun x => { s with flow := x } }) := by
    intro r hr
    simp only [FanOut.dispatch, hr, hflow]
  exact congrArg (fun r => FanOut.dispatch n c r (3, _)) (hthird _ rfl)

end Hook

/-! ## The walk of an analysis -/

/-- The routines of a module have no more definitions than there are numbers for them. -/
def Fitting (m : Module) : Prop :=
  ∀ r, some r ∈ m.functions ∨ some r ∈ m.procedures →
    (Graph.ofRoutine (some m) r).definitions.length ≤ Nat.pow 2 32

/-- A node that is no head of a routine always fits. -/
theorem fitsAt_of_not_isHead (m? : Option Module) {n : Node} (h : n.isHead = false) : FitsAt m? n := by
  cases n with
  | module m => cases h
  | function r => cases h
  | procedure r => cases h
  | _ => trivial

/-- If the head of a routine fits, so do all nodes of the routine. -/
theorem fitsAt_of_mem_routine {m? : Option Module} {r : Routine} {n head : Node} (hhead : FitsAt m? head)
    (hn : n ∈ (Outline.node head r.children).nodes) : FitsAt m? n := by
  rw [Outline.nodes, List.mem_cons] at hn
  rcases hn with rfl | hn
  · exact hhead
  · exact fitsAt_of_not_isHead m? (headless_children r n hn)

/-- The routines that a walk meets are those of the module. -/
theorem Fitting.fitsAt {m : Module} (h : Fitting m) {n : Node} (hn : n ∈ m.outline.nodes) : FitsAt (some m) n := by
  unfold Module.outline at hn
  rw [Outline.nodes, List.mem_cons] at hn
  rcases hn with rfl | hn
  · trivial
  obtain ⟨o, ho, hn⟩ := mem_nodesOfAll.mp hn
  simp only [List.mem_append, List.mem_filterMap, Option.map_eq_some_iff] at ho
  obtain (⟨_, _, d, _, rfl⟩ | ⟨_, hr, r, rfl, rfl⟩) | ⟨_, hr, r, rfl, rfl⟩ := ho
  · rw [Outline.nodes, nodesOfAll, List.mem_singleton] at hn
    subst hn
    trivial
  · have hhead : FitsAt (some m) (.function r) := h r (.inl hr)
    exact fitsAt_of_mem_routine hhead hn
  · have hhead : FitsAt (some m) (.procedure r) := h r (.inr hr)
    exact fitsAt_of_mem_routine hhead hn

/-- The node of the module tells the data flow which module it is in, and the nodes below leave it there. -/
theorem walk_eq {m : Module} (h : Fitting m) (s : RuleSettings) (options : EngineOptions) (c : Context)
    (state : FanState EngineState) :
    walk Context.surroundings (FanOut.hook (Engine.constituents (observers options) Answers.own (active s)))
        (some m.outline) c state
      = walk Context.surroundings
          (FanOut.hook (Engine.constituents (Observers.standard options) Answers.own (Catalog.active s)))
          (some m.outline) c state := by
  obtain ⟨below, houtline, hbelow⟩ := m.exists_outline_eq
  have hfits : ∀ n ∈ m.outline.nodes, FitsAt (some m) n := fun n hn => h.fitsAt hn
  rw [houtline] at hfits ⊢
  rw [Outline.nodes, List.forall_mem_cons] at hfits
  have hagree : ∀ n ∈ nodesOfAll below, AgreesOn
      (FanOut.hook (Engine.constituents (observers options) Answers.own (active s)))
      (FanOut.hook (Engine.constituents (Observers.standard options) Answers.own (Catalog.active s)))
      (fun state => state.state.flow.module? = some m) n := by
    intro n hn c state hmodule
    constructor
    · exact hook_eq s options c (by rw [hmodule]; exact hfits.2 n hn)
    · rw [← hmodule]
      exact module?_observe _ _ (hbelow n hn)
  have hroot : (FanOut.hook (Engine.constituents (Observers.standard options) Answers.own (Catalog.active s))
      (.module m) (Context.surroundings.enter (.module m) c) state).state.state.flow.module? = some m := rfl
  exact (walkNode_congr Context.surroundings (.module m) below c state (hook_eq s options _ trivial) hroot hagree).1

end Careful

end ModuleLint
