import ModuleLint.Proofs.Facts.CallPairs
import ModuleLint.Proofs.Rule.Looks
import ModuleLint.Proofs.Walk.Ancestors
import ModuleLint.Rule.Usage

/-!
# What a walk notes down about routines

On a walk of a module everything that is said about parameters, return statements and calls goes to the routine that
was declared last. Routines are not nested, so this is the routine around the node, and in the end each routine is
noted down with what its own text says (`notes_walkOutline`).

Calls are the exception. A call is noted down with its routine only if the call graph did not know of a call between
routines of these names, and the graph is one for the whole module. So the calls that are noted down for a routine are
those of its text without the ones of routines of the same name before it (`newCallees`).
-/

set_option autoImplicit false

namespace ModuleLint

/-! ## What the text of a routine says -/

mutual

/-- The names of the calls in an expression, each before those in its arguments. -/
def Expr.callNames : Expr → List String
  | .binary _ _ left right => left.callNames ++ right.callNames
  | .call _ name arguments => name :: callNamesOfExprs arguments
  | _ => []

def callNamesOfExprs : List Expr → List String
  | [] => []
  | e :: rest => e.callNames ++ callNamesOfExprs rest

end

mutual

/-- The names of the calls in a statement at any depth, in the order of the text: conditions and bounds before the
blocks they belong to. -/
def Stmt.callNames : Stmt → List String
  | .assign a => a.value.callNames
  | .branch _ condition body alternatives otherwise =>
    condition.callNames ++ callNamesOfStmts body ++ callNamesOfAlternatives alternatives
      ++ callNamesOfStmts otherwise
  | .loopWhile _ condition body => condition.callNames ++ callNamesOfStmts body
  | .loopFor _ _ first last collection body =>
    first.callNames ++ last.callNames ++ collection.callNames ++ callNamesOfStmts body
  | .leave _ value => value.callNames
  | .call c => c.name :: callNamesOfExprs c.arguments
  | _ => []

def callNamesOfStmts : List Stmt → List String
  | [] => []
  | s :: rest => s.callNames ++ callNamesOfStmts rest

def callNamesOfAlternatives : List Alternative → List String
  | [] => []
  | .mk condition body :: rest =>
    condition.callNames ++ callNamesOfStmts body ++ callNamesOfAlternatives rest

end

mutual

/-- The return statements in a statement at any depth, in the order of the text. -/
def Stmt.returns : Stmt → List ReturnFact
  | .branch _ _ body alternatives otherwise =>
    returnsOfStmts body ++ returnsOfAlternatives alternatives ++ returnsOfStmts otherwise
  | .loopWhile _ _ body => returnsOfStmts body
  | .loopFor _ _ _ _ _ body => returnsOfStmts body
  | .leave span value => [{ line := span.line, hasValue := value.isPresent }]
  | _ => []

def returnsOfStmts : List Stmt → List ReturnFact
  | [] => []
  | s :: rest => s.returns ++ returnsOfStmts rest

def returnsOfAlternatives : List Alternative → List ReturnFact
  | [] => []
  | .mk _ body :: rest => returnsOfStmts body ++ returnsOfAlternatives rest

end

def Parameter.fact (p : Parameter) : ParameterFact :=
  { name := p.name, byValue := p.byValue, hasDefault := p.hasDefault }

/-- The names that a routine calls, in the order of its text. A call without a name counts for nothing. -/
def Routine.callees (r : Routine) : List String := (callNamesOfStmts r.body).filter (· != "")

/-- The calls that a routine makes. -/
def Routine.callPairs (r : Routine) : List (String × String) := r.callees.map fun c => (r.name, c)

/-- The routines of a module: functions, then procedures, without the missing ones. -/
def Module.routines (m : Module) : List (RoutineKind × Routine) :=
  (m.functions.filterMap id).map (fun r => (.function, r))
    ++ (m.procedures.filterMap id).map fun r => (.procedure, r)

/-! ## The nodes of a routine -/

def Node.parameterFact? : Node → Option ParameterFact
  | .parameter p => some p.fact
  | _ => none

def Node.returnFact? : Node → Option ReturnFact
  | .returnStatement span value => some { line := span.line, hasValue := value.isPresent }
  | _ => none

def Node.callName? : Node → Option String
  | .call c => some c.name
  | _ => none

/-- Among the nodes of some outlines are no parameters, and just the given returns and calls in this order. -/
structure Holds (os : List Outline) (returns : List ReturnFact) (names : List String) : Prop where
  parameters : (nodesOfAll os).filterMap Node.parameterFact? = []
  returns : (nodesOfAll os).filterMap Node.returnFact? = returns
  calls : (nodesOfAll os).filterMap Node.callName? = names

namespace Holds

/-- Where there are no trees there are no returns and no calls. -/
theorem nil : Holds [] [] [] := ⟨rfl, rfl, rfl⟩

/-- Trees side by side have their returns and their calls one after another. -/
theorem append {os rest : List Outline} {rs rs' : List ReturnFact} {cs cs' : List String} (h : Holds os rs cs)
    (hrest : Holds rest rs' cs') : Holds (os ++ rest) (rs ++ rs') (cs ++ cs') where
  parameters := by rw [nodesOfAll_append, List.filterMap_append, h.parameters, hrest.parameters, List.append_nil]
  returns := by rw [nodesOfAll_append, List.filterMap_append, h.returns, hrest.returns]
  calls := by rw [nodesOfAll_append, List.filterMap_append, h.calls, hrest.calls]

/-- A node comes before what stands below it. -/
theorem node {n : Node} {children : List Outline} {rs : List ReturnFact} {cs : List String}
    (hn : n.parameterFact? = none) (h : Holds children rs cs) :
    Holds [.node n children] (n.returnFact?.toList ++ rs) (n.callName?.toList ++ cs) := by
  have hnodes : nodesOfAll [.node n children] = n :: nodesOfAll children := by
    rw [nodesOfAll, nodesOfAll, List.append_nil, Outline.nodes]
  constructor
  · rw [hnodes, List.filterMap_cons_none hn, h.parameters]
  · rw [hnodes, List.filterMap_cons, h.returns]
    cases n.returnFact? <;> rfl
  · rw [hnodes, List.filterMap_cons, h.calls]
    cases n.callName? <;> rfl

/-- The target of an assignment neither returns nor calls. -/
theorem target (r : Option Reference) : Holds (outlineOfTarget r) [] [] := by
  cases r with
  | none => exact nil
  | some r => exact node rfl nil

mutual

/-- Expressions return nothing, and their calls are met in the order of the text. -/
theorem expr : ∀ e : Expr, Holds e.outline [] e.callNames
  | .hole _ => nil
  | .reference _ => node rfl nil
  | .binary _ _ left right => node rfl ((expr left).append (expr right))
  | .literal _ => node rfl nil
  | .call _ _ arguments => node rfl (exprs arguments)
  | .generic _ => node rfl nil

/-- Several expressions have their calls one after another. -/
theorem exprs : ∀ es : List Expr, Holds (outlineOfExprs es) [] (callNamesOfExprs es)
  | [] => nil
  | e :: rest => (expr e).append (exprs rest)

end

mutual

/-- A statement has its returns and its calls in the order of the text, by the recursion over its parts. -/
theorem stmt : ∀ s : Stmt, Holds s.outline s.returns s.callNames
  | .hole _ => nil
  | .declare _ => node rfl nil
  | .assign a => node rfl ((target a.target).append (expr a.value))
  | .branch _ condition body alternatives otherwise =>
    node rfl ((((expr condition).append (stmts body)).append (Holds.alternatives alternatives)).append
      (stmts otherwise))
  | .loopWhile _ condition body => node rfl ((expr condition).append (stmts body))
  | .loopFor _ counter first last collection body =>
    node rfl (((((target counter).append (expr first)).append (expr last)).append (expr collection)).append
      (stmts body))
  | .leave _ value => node rfl (expr value)
  | .call c => node rfl (exprs c.arguments)
  | .generic _ => node rfl nil

/-- The statements of a body have their returns and their calls one after another. -/
theorem stmts : ∀ ss : List Stmt, Holds (outlineOfStmts ss) (returnsOfStmts ss) (callNamesOfStmts ss)
  | [] => nil
  | s :: rest => (stmt s).append (stmts rest)

/-- The branches of a conditional have their returns and their calls one after another. -/
theorem alternatives : ∀ as : List Alternative,
    Holds (outlineOfAlternatives as) (returnsOfAlternatives as) (callNamesOfAlternatives as)
  | [] => nil
  | .mk condition body :: rest => ((expr condition).append (stmts body)).append (Holds.alternatives rest)

end

end Holds

/-- Below the parameters of a routine stand the parameters that are there. -/
theorem nodesOfAll_outlineOfParameters (parameters : List (Option Parameter)) :
    nodesOfAll (outlineOfParameters parameters) = (parameters.filterMap id).map Node.parameter := by
  induction parameters with
  | nil => rfl
  | cons p rest ih =>
    cases p with
    | none => exact ih
    | some p =>
      show .parameter p :: nodesOfAll (outlineOfParameters rest) = _
      rw [ih]
      rfl

/-- What the nodes below a routine say is what its text says. -/
theorem Routine.filterMap_nodes (r : Routine) :
    (nodesOfAll r.children).filterMap Node.parameterFact? = (r.parameters.filterMap id).map Parameter.fact
      ∧ (nodesOfAll r.children).filterMap Node.returnFact? = returnsOfStmts r.body
      ∧ (nodesOfAll r.children).filterMap Node.callName? = callNamesOfStmts r.body := by
  have hbody := Holds.stmts r.body
  have hparameters (ps : List Parameter) :
      (ps.map Node.parameter).filterMap Node.parameterFact? = ps.map Parameter.fact
        ∧ (ps.map Node.parameter).filterMap Node.returnFact? = []
        ∧ (ps.map Node.parameter).filterMap Node.callName? = [] := by
    induction ps with
    | nil => exact ⟨rfl, rfl, rfl⟩
    | cons p rest ih => simp [Node.parameterFact?, Node.returnFact?, Node.callName?, ih]
  obtain ⟨hfacts, hreturns, hcalls⟩ := hparameters (r.parameters.filterMap id)
  unfold children
  simp only [nodesOfAll_append, List.filterMap_append, nodesOfAll_outlineOfParameters, hfacts, hreturns, hcalls,
    hbody.parameters, hbody.returns, hbody.calls, List.append_nil, List.nil_append, and_self]

/-! ## On the way through a routine -/

/-- The callees of a caller that some calls made before do not name, without repetition. -/
def newCallees (before : List (String × String)) (caller : String) (callees : List String) : List String :=
  callees.eraseDups.filter fun c => !before.contains (caller, c)

/-- A further call adds its callee, unless the pair was known before or in this routine. -/
theorem newCallees_concat (before : List (String × String)) (caller callee : String) (callees : List String) :
    newCallees before caller (callees ++ [callee])
      = if (caller, callee) ∈ before ∨ callee ∈ callees then newCallees before caller callees
        else newCallees before caller callees ++ [callee] := by
  unfold newCallees
  rw [eraseDups_concat]
  by_cases hmem : callee ∈ callees
  · rw [insertNew_of_mem (List.mem_eraseDups.mpr hmem), if_pos (.inr hmem)]
  · rw [insertNew_of_not_mem (mt List.mem_eraseDups.mp hmem), List.filter_append]
    by_cases hbefore : (caller, callee) ∈ before
    · simp [hbefore]
    · simp [hbefore, hmem]

/-- The new callees of a routine are its callees whose pair was not known. -/
theorem mem_newCallees {before : List (String × String)} {caller callee : String} {callees : List String} :
    callee ∈ newCallees before caller callees ↔ callee ∈ callees ∧ (caller, callee) ∉ before := by
  unfold newCallees
  simp

/-- The names that are called among some nodes. -/
def calleesAt (ns : List Node) : List String := (ns.filterMap Node.callName?).filter (· != "")

/-- A routine as noted down after some of its nodes, where some calls were made before it. -/
def RoutineFact.after (before : List (String × String)) (kind : RoutineKind) (r : Routine) (ns : List Node) :
    RoutineFact :=
  { name := r.name
    kind := kind
    line := r.span.line
    exported := r.exported
    length := r.span.length
    declaration := r
    parameters := ns.filterMap Node.parameterFact?
    returns := ns.filterMap Node.returnFact?
    calls := newCallees before r.name (calleesAt ns) }

namespace RoutineFacts

/-- Some nodes of a routine have been visited. The routines `done` were noted down earlier, with the calls `before`, and
the node of the routine leads to the facts that stand last. -/
structure Midway (done : List RoutineFact) (before : List (String × String)) (kind : RoutineKind) (r : Routine)
    (ns : List Node) (facts : RoutineFacts) : Prop where
  routines : facts.routines = done ++ [.after before kind r ns]
  place : facts.byNode.get? (r.node kind) = some done.length
  graph : facts.graph.Refines (before ++ (calleesAt ns).map fun c => (r.name, c))

/-- The place after some entries is that of the last one. -/
theorem modify_concat {α : Type} (xs : List α) (x : α) (f : α → α) :
    (xs ++ [x]).modify xs.length f = xs ++ [f x] := by
  rw [List.modify_eq_take_cons_drop (by simp)]
  simp

section Midway

variable {done : List RoutineFact} {before : List (String × String)} {kind : RoutineKind} {r : Routine}
  {ns : List Node} {facts : RoutineFacts} {c : Context}

/-- The routine around the current node is the one on the way through. -/
theorem Midway.currentPlace? (h : Midway done before kind r ns facts) (hc : c.routine = some (kind, r)) :
    facts.currentPlace? c = some done.length := by
  unfold RoutineFacts.currentPlace?
  rw [hc]
  exact h.place

/-- Within a routine, the routine of the surroundings leads to the last entry. -/
theorem Midway.current? (h : Midway done before kind r ns facts) (hc : c.routine = some (kind, r)) :
    facts.current? c = some (.after before kind r ns) := by
  unfold RoutineFacts.current?
  rw [h.currentPlace? hc, Option.bind_some, h.routines, List.getElem?_concat_length]

/-- Only the facts that stand last change, whatever the graph. -/
theorem Midway.updateCurrent (h : Midway done before kind r ns facts) (hc : c.routine = some (kind, r))
    (graph : CallGraph) (f : RoutineFact → RoutineFact) :
    RoutineFacts.updateCurrent { facts with graph := graph } c f
      = { facts with graph := graph, routines := done ++ [f (.after before kind r ns)] } := by
  have hplace : RoutineFacts.currentPlace? { facts with graph := graph } c = some done.length := h.currentPlace? hc
  unfold RoutineFacts.updateCurrent
  rw [hplace]
  simp only [h.routines, modify_concat]

/-- A call without a name goes nowhere. -/
theorem addCall_nameless (facts : RoutineFacts) (c : Context) : facts.addCall c "" = facts := by
  unfold RoutineFacts.addCall
  split <;> rfl

/-- A call goes to the graph. It goes to the routine too if neither the routine nor one of its name before made it. -/
theorem Midway.addCall (h : Midway done before kind r ns facts) (hc : c.routine = some (kind, r)) {callee : String}
    (hname : callee ≠ "") :
    facts.addCall c callee
      = { facts with
          routines := done ++ [{ RoutineFact.after before kind r ns with
            calls := newCallees before r.name (calleesAt ns ++ [callee]) }]
          graph := (facts.graph.addCall r.name callee).1 } := by
  have hcaller : (RoutineFact.after before kind r ns).name = r.name := rfl
  have hnew := h.graph.isNew_iff r.name callee
  have hunnamed : ¬(callee == "") = true := by simpa using hname
  unfold RoutineFacts.addCall
  simp only [h.current? hc, hcaller, if_neg hunnamed]
  rw [newCallees_concat]
  by_cases hmade : (r.name, callee) ∈ before ∨ callee ∈ calleesAt ns
  · have hold : ¬ (facts.graph.addCall r.name callee).2 = true := by
      rw [hnew, not_not]
      simpa using hmade
    rw [if_pos hmade, if_neg hold, h.routines]
    rfl
  · have hfirst : (facts.graph.addCall r.name callee).2 = true := by
      rw [hnew]
      simpa using hmade
    rw [if_neg hmade, if_pos hfirst, h.updateCurrent hc]
    rfl

/-- The callees at nodes are collected from left to right. -/
theorem calleesAt_append (ns rest : List Node) : calleesAt (ns ++ rest) = calleesAt ns ++ calleesAt rest := by
  unfold calleesAt
  rw [List.filterMap_append, List.filter_append]

/-- One more node that calls nothing: the graph stays, and the routine gets what the node is. -/
theorem Midway.concat (h : Midway done before kind r ns facts) {n : Node} (hn : calleesAt [n] = [])
    {facts' : RoutineFacts} (hgraph : facts'.graph = facts.graph) (hbyNode : facts'.byNode = facts.byNode)
    (hroutines : facts'.routines = done ++ [{ RoutineFact.after before kind r ns with
      parameters := ns.filterMap Node.parameterFact? ++ n.parameterFact?.toList
      returns := ns.filterMap Node.returnFact? ++ n.returnFact?.toList }]) :
    Midway done before kind r (ns ++ [n]) facts' := by
  have hcallees : calleesAt (ns ++ [n]) = calleesAt ns := by rw [calleesAt_append, hn, List.append_nil]
  have hparameter : [n].filterMap Node.parameterFact? = n.parameterFact?.toList := by
    cases hp : n.parameterFact? <;> simp [hp]
  have hreturn : [n].filterMap Node.returnFact? = n.returnFact?.toList := by
    cases hr : n.returnFact? <;> simp [hr]
  constructor
  · rw [hroutines]
    unfold RoutineFact.after
    rw [hcallees, List.filterMap_append, List.filterMap_append, hparameter, hreturn]
  · rw [hbyNode]
    exact h.place
  · rw [hgraph, hcallees]
    exact h.graph

/-- One more node of the routine. -/
theorem Midway.observe (h : Midway done before kind r ns facts) (hc : c.routine = some (kind, r)) {n : Node}
    (hn : n.isHead = false) : Midway done before kind r (ns ++ [n]) (observe n c facts) := by
  cases n with
  | module m => cases hn
  | function f => cases hn
  | procedure f => cases hn
  | parameter p =>
    rw [RoutineFacts.observe, h.updateCurrent hc facts.graph]
    refine h.concat rfl rfl rfl ?_
    simp [RoutineFact.after, Node.parameterFact?, Node.returnFact?, Parameter.fact]
  | returnStatement span value =>
    rw [RoutineFacts.observe, h.updateCurrent hc facts.graph]
    refine h.concat rfl rfl rfl ?_
    simp [RoutineFact.after, Node.parameterFact?, Node.returnFact?]
  | call call =>
    by_cases hname : call.name = ""
    · rw [RoutineFacts.observe, hname, addCall_nameless]
      refine h.concat (by simp [calleesAt, Node.callName?, hname]) rfl rfl ?_
      simp [h.routines, RoutineFact.after, Node.parameterFact?, Node.returnFact?]
    · have hcallees : calleesAt (ns ++ [.call call]) = calleesAt ns ++ [call.name] := by
        simp [calleesAt, Node.callName?, hname]
      have hgraph := h.graph.addCall r.name call.name
      rw [RoutineFacts.observe, h.addCall hc hname]
      constructor
      · simp [RoutineFact.after, hcallees, Node.parameterFact?, Node.returnFact?]
      · exact h.place
      · rw [hcallees, List.map_append, ← List.append_assoc]
        exact hgraph
  | _ =>
    refine h.concat rfl rfl rfl ?_
    simp [RoutineFacts.observe, h.routines, RoutineFact.after, Node.parameterFact?, Node.returnFact?]

/-- All nodes below the head of a routine are written down in its entry. -/
theorem Midway.foldl_observe (h : Midway done before kind r ns facts) (xs : List (Node × Context))
    (hxs : ∀ x ∈ xs, x.1.isHead = false ∧ x.2.routine = some (kind, r)) :
    Midway done before kind r (ns ++ xs.map Prod.fst)
      (xs.foldl (fun facts x => RoutineFacts.observe x.1 x.2 facts) facts) := by
  induction xs generalizing ns facts with
  | nil => simpa using h
  | cons x rest ih =>
    obtain ⟨hn, hc⟩ := hxs x (List.mem_cons_self ..)
    have hrest := ih (h.observe hc hn) fun y hy => hxs y (List.mem_cons_of_mem x hy)
    rwa [List.append_assoc] at hrest

end Midway

end RoutineFacts

/-! ## From routine to routine -/

namespace Context

mutual

/-- Below a routine the walk does not come to another one. -/
theorem routine_of_mem_sightings : ∀ (o : Outline) (c : Context), (∀ n ∈ o.nodes, n.isHead = false) →
    ∀ x ∈ sightings surroundings o c, x.2.routine = c.routine
  | .node n children, c, hheads, x, hx => by
    rw [Outline.nodes, List.forall_mem_cons] at hheads
    have hsame : (enter n c).routine = c.routine := by
      cases n with
      | module m => cases hheads.1
      | function r => cases hheads.1
      | procedure r => cases hheads.1
      | _ => rfl
    rw [sightings_node, List.mem_cons] at hx
    rcases hx with rfl | hx
    · exact hsame
    · exact (routine_of_mem_sightingsOfAll children (enter n c) hheads.2 x hx).trans hsame

/-- Below a routine no other routine begins, so all nodes are met with the same routine around them. -/
theorem routine_of_mem_sightingsOfAll : ∀ (os : List Outline) (c : Context), Headless os →
    ∀ x ∈ sightingsOfAll surroundings os c, x.2.routine = c.routine
  | [], _, _, _, hx => by cases hx
  | o :: rest, c, hheads, x, hx => by
    have ho : ∀ n ∈ o.nodes, n.isHead = false := fun n hn => hheads n (List.mem_append_left _ hn)
    have hrest : Headless rest := fun n hn => hheads n (List.mem_append_right _ hn)
    rw [sightingsOfAll_cons, List.mem_append] at hx
    rcases hx with hx | hx
    · exact routine_of_mem_sightings o c ho x hx
    · -- the walk of the first outline comes back to where it started
      have hback := quiet_idleHook.samePlace_walkOutline o c ()
      exact (routine_of_mem_sightingsOfAll rest _ hrest x hx).trans hback.routine

end

end Context

/-- The nodes that are met, whatever stands around them. -/
theorem map_fst_sightingsOfAll {γ : Type} (sur : Surroundings γ) (os : List Outline) (g : γ) :
    (sightingsOfAll sur os g).map Prod.fst = nodesOfAll os := by
  induction os generalizing g with
  | nil => rfl
  | cons o rest ih => rw [sightingsOfAll_cons, List.map_append, map_fst_sightings, ih, nodesOfAll]

/-- Routines as noted down one after another, where some calls were made before them. -/
def noted : List (String × String) → List (RoutineKind × Routine) → List RoutineFact
  | _, [] => []
  | before, (kind, r) :: rest =>
    .after before kind r (nodesOfAll r.children) :: noted (before ++ r.callPairs) rest

/-- The calls that some routines make. -/
def callsOf (rs : List (RoutineKind × Routine)) : List (String × String) := rs.flatMap fun x => x.2.callPairs

/-- The calls of a further routine come last. -/
theorem callsOf_concat (rs : List (RoutineKind × Routine)) (kind : RoutineKind) (r : Routine) :
    callsOf (rs ++ [(kind, r)]) = callsOf rs ++ r.callPairs := by
  simp [callsOf]

/-- A further routine is written down last, knowing all calls before it. -/
theorem noted_concat (before : List (String × String)) (rs : List (RoutineKind × Routine)) (kind : RoutineKind)
    (r : Routine) :
    noted before (rs ++ [(kind, r)])
      = noted before rs ++ [.after (before ++ callsOf rs) kind r (nodesOfAll r.children)] := by
  induction rs generalizing before with
  | nil => simp [noted, callsOf]
  | cons x rest ih => simp [noted, ih, callsOf]

/-- The callees at the nodes of a routine are its callees in the tree. -/
theorem calleesAt_children (r : Routine) : calleesAt (nodesOfAll r.children) = r.callees := by
  unfold calleesAt Routine.callees
  rw [r.filterMap_nodes.2.2]

/-- After the walk below a routine its entry has the callees that are new with it. -/
theorem calls_after_children (before : List (String × String)) (kind : RoutineKind) (r : Routine) :
    (RoutineFact.after before kind r (nodesOfAll r.children)).calls = newCallees before r.name r.callees := by
  rw [← calleesAt_children r]
  rfl

/-- The pairs of a routine have its name in front. -/
theorem mem_callPairs {r : Routine} {call : String × String} :
    call ∈ r.callPairs ↔ r.name = call.1 ∧ call.2 ∈ r.callees := by
  unfold Routine.callPairs
  rw [List.mem_map]
  constructor
  · rintro ⟨c, hc, rfl⟩
    exact ⟨rfl, hc⟩
  · rintro ⟨hname, hc⟩
    exact ⟨call.2, hc, Prod.ext hname rfl⟩

/-- A pair is among the calls when a routine of the first name calls the second. -/
theorem mem_callsOf {rs : List (RoutineKind × Routine)} {call : String × String} :
    call ∈ callsOf rs ↔ ∃ x ∈ rs, x.2.name = call.1 ∧ call.2 ∈ x.2.callees := by
  unfold callsOf
  simp only [List.mem_flatMap, mem_callPairs]

/-- The routines of one kind are those of the slots that are filled. -/
theorem filterMap_routine?_slots (outline : Routine → Outline) (kind : RoutineKind)
    (houtline : ∀ r, (outline r).root.routine? = some (kind, r)) (slots : List (Option Routine)) :
    (slots.filterMap fun r => r.map outline).filterMap (fun o => o.root.routine?)
      = (slots.filterMap id).map fun r => (kind, r) := by
  induction slots with
  | nil => rfl
  | cons slot rest ih =>
    cases slot with
    | none => exact ih
    | some r => simp [houtline, ih]

/-- Below a module stand its variables and its routines. -/
theorem Module.exists_outline_routines (m : Module) : ∃ below, m.outline = .node (.module m) below
    ∧ below.filterMap (fun o => o.root.routine?) = m.routines
    ∧ ∀ o ∈ below, (∃ d, o = .node (.declaration d) [])
      ∨ ∃ n kind r, o = .node n r.children ∧ n.routine? = some (kind, r) := by
  refine ⟨_, rfl, ?_, ?_⟩
  · have hdeclarations : (m.declarations.filterMap fun d => d.map fun d => Outline.node (.declaration d) []).filterMap
        (fun o => o.root.routine?) = [] := by
      apply List.filterMap_eq_nil_iff.mpr
      intro o ho
      obtain ⟨slot, -, hslot⟩ := List.mem_filterMap.mp ho
      obtain ⟨d, -, rfl⟩ := Option.map_eq_some_iff.mp hslot
      rfl
    rw [List.filterMap_append, List.filterMap_append, hdeclarations,
      filterMap_routine?_slots Routine.functionOutline .function fun _ => rfl,
      filterMap_routine?_slots Routine.procedureOutline .procedure fun _ => rfl]
    rfl
  · intro o ho
    simp only [List.mem_append, List.mem_filterMap] at ho
    rcases ho with (⟨slot, -, hslot⟩ | ⟨slot, -, hslot⟩) | ⟨slot, -, hslot⟩
    · obtain ⟨d, -, rfl⟩ := Option.map_eq_some_iff.mp hslot
      exact .inl ⟨d, rfl⟩
    · obtain ⟨r, -, rfl⟩ := Option.map_eq_some_iff.mp hslot
      exact .inr ⟨.function r, .function, r, rfl, rfl⟩
    · obtain ⟨r, -, rfl⟩ := Option.map_eq_some_iff.mp hslot
      exact .inr ⟨.procedure r, .procedure, r, rfl, rfl⟩

namespace RoutineFacts

/-- The facts are those about the given routines. -/
structure Notes (rs : List (RoutineKind × Routine)) (facts : RoutineFacts) : Prop where
  routines : facts.routines = noted [] rs
  graph : facts.graph.Refines (callsOf rs)

/-- A walk through one routine writes down one more entry. -/
theorem Notes.routine {rs : List (RoutineKind × Routine)} {facts : RoutineFacts} (h : Notes rs facts) {n : Node}
    {kind : RoutineKind} {r : Routine} (hn : n.routine? = some (kind, r)) (c : Context) :
    Notes (rs ++ [(kind, r)])
      ((sightings Context.surroundings (.node n r.children) c).foldl (fun facts x => observe x.1 x.2 facts) facts) := by
  have hdeclare : observe n (Context.enter n c) facts = facts.declare kind r
      ∧ (Context.enter n c).routine = some (kind, r) := by
    cases n <;> cases hn <;> exact ⟨rfl, rfl⟩
  have hstart : Midway (noted [] rs) (callsOf rs) kind r [] (facts.declare kind r) := by
    constructor
    · show facts.routines ++ _ = _
      rw [h.routines]
      rfl
    · show (facts.byNode.put (r.node kind) facts.routines.length).get? (r.node kind) = _
      rw [Dictionary.get?_put_self, h.routines]
    · show facts.graph.Refines (callsOf rs ++ [])
      rw [List.append_nil]
      exact h.graph
  have hinside : ∀ x ∈ sightingsOfAll Context.surroundings r.children (Context.enter n c),
      x.1.isHead = false ∧ x.2.routine = some (kind, r) := by
    intro x hx
    have hnode : x.1 ∈ nodesOfAll r.children := by
      rw [← map_fst_sightingsOfAll Context.surroundings r.children (Context.enter n c)]
      exact List.mem_map_of_mem hx
    refine ⟨headless_children r x.1 hnode, ?_⟩
    rw [Context.routine_of_mem_sightingsOfAll _ _ (headless_children r) x hx]
    exact hdeclare.2
  have hend := hstart.foldl_observe _ hinside
  rw [map_fst_sightingsOfAll, List.nil_append] at hend
  rw [sightings_node, List.foldl_cons]
  show Notes _ (List.foldl _ (observe n (Context.enter n c) facts)
    (sightingsOfAll Context.surroundings r.children (Context.enter n c)))
  rw [hdeclare.1]
  constructor
  · rw [hend.routines, noted_concat, List.nil_append]
  · have hgraph := hend.graph
    rw [calleesAt_children] at hgraph
    rw [callsOf_concat]
    exact hgraph

/-- Variables of the module are not noted down, and each routine is. -/
theorem Notes.outlines (os : List Outline)
    (hos : ∀ o ∈ os, (∃ d, o = .node (.declaration d) [])
      ∨ ∃ n kind r, o = .node n r.children ∧ n.routine? = some (kind, r))
    {rs : List (RoutineKind × Routine)} {facts : RoutineFacts} (h : Notes rs facts) (c : Context) :
    Notes (rs ++ os.filterMap fun o => o.root.routine?)
      ((sightingsOfAll Context.surroundings os c).foldl (fun facts x => observe x.1 x.2 facts) facts) := by
  induction os generalizing rs facts c with
  | nil => simpa [sightingsOfAll, logOfAll_nil] using h
  | cons o rest ih =>
    rw [List.forall_mem_cons] at hos
    rw [sightingsOfAll_cons, List.foldl_append]
    rcases hos.1 with ⟨d, rfl⟩ | ⟨n, kind, r, rfl, hn⟩
    · exact ih hos.2 h _
    · have hfirst : (.node n r.children :: rest).filterMap (fun o => o.root.routine?)
          = (kind, r) :: rest.filterMap (fun o => o.root.routine?) := List.filterMap_cons_some hn
      have hrest := ih hos.2 (h.routine hn c)
        (walkOutline Context.surroundings idleHook (.node n r.children) c ()).surroundings
      rw [List.append_assoc] at hrest
      rw [hfirst]
      exact hrest

/-- What is seen of a module tells its routines, whatever was known before and wherever the walk starts. -/
theorem notes_foldl_observe (m : Module) (c : Context) (facts : RoutineFacts) :
    Notes m.routines
      ((sightings Context.surroundings m.outline c).foldl (fun facts x => observe x.1 x.2 facts) facts) := by
  obtain ⟨below, houtline, hroutines, hbelow⟩ := m.exists_outline_routines
  have hempty : Notes [] empty := ⟨rfl, CallGraph.refines_empty⟩
  have hall := Notes.outlines below hbelow hempty (Context.enter (.module m) c)
  rw [hroutines, List.nil_append] at hall
  rw [houtline, sightings_node, List.foldl_cons]
  exact hall

/-- The hook that writes down routines never refuses. -/
theorem quiet_hook : Quiet hook :=
  { panic_eq_none := fun _ _ _ => rfl, entered_eq_nil := fun _ _ _ => rfl }

/-- A walk through a module writes down its routines, whatever was written down before. -/
theorem notes_walkOutline (m : Module) (c : Context) (facts : RoutineFacts) :
    Notes m.routines (walkOutline Context.surroundings hook m.outline c facts).state := by
  rw [walkOutline_quiet Context.surroundings quiet_hook]
  exact notes_foldl_observe m c facts

/-- The facts that an analysis collects are those of the routines of its module. -/
theorem notes_factsOf (options : EngineOptions) (m : Module) : Notes m.routines (factsOf options m).routines := by
  have hgathered : (factsOf options m).routines
      = (sightings Context.surroundings m.outline (Context.ofModule m.name)).foldl
          (fun facts x => observe x.1 x.2 facts) empty :=
    Engine.view_walked Answers.own [] options m (fun s => s.state.routines) _ fun _ _ => rfl
  rw [hgathered]
  exact notes_foldl_observe m (Context.ofModule m.name) empty

end RoutineFacts

/-- A rule that looks at the facts finds nothing on the way. -/
theorem violations_usageRule (info : RuleInfo) (look : RuleInfo → Facts → List Violation) (options : EngineOptions)
    (m : Module) :
    (analyzeModule [Usage.rule info look] options (some m)).violations
      = Violation.sort (look info (factsOf options m)) := by
  have hway : ((sightings Context.surroundings m.outline (Context.ofModule m.name)).filterMap (lookAt? (some m))).flatMap
      (fun l => (Usage.rule info look).findingsAt l) = [] := by
    apply List.flatMap_eq_nil_iff.mpr
    intro l hl
    obtain ⟨⟨n, c⟩, -, hlook⟩ := List.mem_filterMap.mp hl
    cases n <;> cases hlook <;> rfl
  rw [violations_analyzeModule]
  unfold findings looks
  simp only [List.flatMap_cons, List.flatMap_nil, List.append_nil, List.flatMap_append, hway, List.nil_append]
  rfl

end ModuleLint
