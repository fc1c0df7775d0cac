import Mathlib.Data.List.Induction
import ModuleLint.Facts.Variables
import ModuleLint.Proofs.Flow.RoutineGraph
import ModuleLint.Proofs.Walk.Visits

/-!
# A walk and the flow graph see the same variables

Two readings of a routine are compared here. A walk shows its nodes, among them parameters, declarations and
references to variables. Lowering turns the same text into uses and definitions. For each part of the text the nodes
of the one tell what the effects of the other tell (`Covers`), although an assignment is walked from its target to its
value and lowered from its value to its target. Since the graph holds all effects of the text (`tells_finalBuilder`),
in blocks that can be reached or not, neither reading misses a variable or has it twice.
-/

set_option autoImplicit false

namespace ModuleLint

open ModuleLint.Flow

/-- A variable and where it stands. -/
structure Spot where
  name : String
  line : UInt64
  column : UInt64
deriving Repr, DecidableEq

def Node.spot (n : Node) : Spot := { name := n.label, line := n.span.line, column := n.span.column }

/-- Whether a node stands for a variable. -/
def Node.namesVariable : Node → Bool
  | .parameter _ => true
  | .declaration _ => true
  | .reference _ => true
  | _ => false

/-- The spots of the nodes of one kind. -/
def spotsOf (kind : Kind) (ns : List Node) : List Spot :=
  (ns.filter fun n => n.kind == kind).map Node.spot

namespace Flow

def Event.spot (e : Event) : Spot := { name := e.variableName, line := e.line, column := e.column }

def Definition.spot (d : Definition) : Spot := { name := d.variableName, line := d.line, column := d.column }

/-- The spots of all uses of a graph, whatever block they stand in. -/
def Graph.useSpots (g : Graph) : List Spot :=
  ((g.blocks.flatMap Block.events).filter fun e => e.definition.isNone).map Event.spot

/-- The spots of the definitions of one origin. -/
def Graph.definitionSpots (g : Graph) (origin : Origin) : List Spot :=
  (g.definitions.filter fun d => d.origin == origin).map Definition.spot

def Effect.spot (e : Effect) : Spot := { name := e.name, line := e.span.line, column := e.span.column }

/-- What introduces the definition of an effect, if it is one. -/
def Effect.origin? : Effect → Option Origin
  | define origin _ _ => some origin
  | read _ => none

/-- The spots of the effects that are selected by what introduces them. -/
def spotsWhere (keep : Option Origin → Bool) (es : List Effect) : List Spot :=
  (es.filter fun e => keep e.origin?).map Effect.spot

/-- Whether an effect is written as a reference: a read, the target of an assignment or a counter. -/
def isReference : Option Origin → Bool
  | none => true
  | some .assignment => true
  | some .loopCounter => true
  | some _ => false

end Flow

/-- Spots of nodes are collected from left to right. -/
theorem spotsOf_append (kind : Kind) (ns more : List Node) :
    spotsOf kind (ns ++ more) = spotsOf kind ns ++ spotsOf kind more := by
  simp [spotsOf]

/-- Spots of effects are collected from left to right. -/
theorem spotsWhere_append (keep : Option Origin → Bool) (es more : List Effect) :
    spotsWhere keep (es ++ more) = spotsWhere keep es ++ spotsWhere keep more := by
  simp [spotsWhere]

/-! ## Nodes and effects of one text -/

/-- The nodes show the references and the declarations of the effects and no others, and the parameters of both are the
given ones. -/
structure Covers (ns : List Node) (es : List Effect) (parameters : List Spot) : Prop where
  references : (spotsOf .reference ns).Perm (spotsWhere isReference es)
  declarations : spotsOf .declaration ns = spotsWhere (· == some .declaration) es
  parameters_visited : spotsOf .parameter ns = parameters
  parameters_defined : spotsWhere (· == some .parameter) es = parameters

namespace Covers

variable {ns more : List Node} {es rest : List Effect} {ps qs : List Spot}

/-- Where there are no nodes there are no effects. -/
theorem nil : Covers [] [] [] := ⟨List.Perm.refl _, rfl, rfl, rfl⟩

/-- Texts that are covered one by one are covered one after another. -/
theorem append (h : Covers ns es ps) (hrest : Covers more rest qs) : Covers (ns ++ more) (es ++ rest) (ps ++ qs) := by
  constructor
  · rw [spotsOf_append, spotsWhere_append]
    exact h.references.append hrest.references
  · rw [spotsOf_append, spotsWhere_append, h.declarations, hrest.declarations]
  · rw [spotsOf_append, h.parameters_visited, hrest.parameters_visited]
  · rw [spotsWhere_append, h.parameters_defined, hrest.parameters_defined]

/-- What only reads may come earlier among the effects than among the nodes. -/
theorem reads_first {rs : List Reference} (h : Covers ns es []) (hreads : Covers more (rs.map .read) []) :
    Covers (ns ++ more) (rs.map .read ++ es) [] := by
  have hnone : spotsWhere (· == some .declaration) (rs.map .read) = [] := by simp [spotsWhere, Effect.origin?]
  have hall := h.append hreads
  constructor
  · refine hall.references.trans ?_
    rw [spotsWhere_append, spotsWhere_append]
    exact List.perm_append_comm
  · rw [hall.declarations, spotsWhere_append, spotsWhere_append, hnone, List.append_nil, List.nil_append]
  · exact hall.parameters_visited
  · rw [spotsWhere_append, h.parameters_defined, hreads.parameters_defined]
    rfl

/-- A node that does not name a variable itself. -/
theorem node {n : Node} {children : List Outline} (h : Covers (nodesOfAll children) es ps)
    (hn : n.namesVariable = false) : Covers (nodesOfAll [.node n children]) es ps := by
  have hnodes : nodesOfAll [.node n children] = n :: nodesOfAll children := by
    rw [nodesOfAll, nodesOfAll, List.append_nil, Outline.nodes]
  have hskip : ∀ kind : Kind, n.kind ≠ kind →
      spotsOf kind (n :: nodesOfAll children) = spotsOf kind (nodesOfAll children) := by
    intro kind hkind
    unfold spotsOf
    rw [List.filter_cons_of_neg (by simpa using hkind)]
  obtain ⟨hreference, hdeclaration, hparameter⟩ :
      n.kind ≠ .reference ∧ n.kind ≠ .declaration ∧ n.kind ≠ .parameter := by
    cases n with
    | parameter p => cases hn
    | declaration d => cases hn
    | reference r => cases hn
    | _ => exact ⟨Kind.noConfusion, Kind.noConfusion, Kind.noConfusion⟩
  rw [hnodes]
  constructor
  · rw [hskip _ hreference]
    exact h.references
  · rw [hskip _ hdeclaration]
    exact h.declarations
  · rw [hskip _ hparameter]
    exact h.parameters_visited
  · exact h.parameters_defined

/-- A node that names no variable, with nothing below it, has no effect. -/
theorem leaf {n : Node} (hn : n.namesVariable = false) : Covers (nodesOfAll [.node n []]) [] [] := by
  have hnone : Covers (nodesOfAll []) [] [] := nil
  exact hnone.node hn

end Covers

/-- A reference that is read is one node and one effect. -/
theorem covers_reference (r : Reference) : Covers (nodesOfAll [r.outline]) [.read r] [] :=
  ⟨List.Perm.refl _, rfl, rfl, rfl⟩

/-- The target of an assignment and the counter of a loop are references that define. -/
theorem covers_target {origin : Origin} (horigin : origin = .assignment ∨ origin = .loopCounter)
    (target : Option Reference) :
    Covers (nodesOfAll (outlineOfTarget target)) (effectsOfTarget origin target) [] := by
  cases target with
  | none => exact Covers.nil
  | some r =>
    rcases horigin with rfl | rfl
    · exact ⟨List.Perm.refl _, rfl, rfl, rfl⟩
    · exact ⟨List.Perm.refl _, rfl, rfl, rfl⟩

mutual

/-- The nodes of an expression show its reads, by the recursion over its parts. -/
theorem covers_expr : ∀ e : Expr, Covers (nodesOfAll e.outline) (e.reads.map .read) []
  | .hole _ => Covers.nil
  | .reference r => covers_reference r
  | .binary _ _ left right => by
    rw [Expr.outline, Expr.reads, List.map_append]
    refine Covers.node ?_ rfl
    rw [nodesOfAll_append]
    exact (covers_expr left).append (covers_expr right)
  | .literal _ => Covers.leaf rfl
  | .call _ _ arguments => (covers_exprs arguments).node rfl
  | .generic _ => Covers.leaf rfl

/-- The nodes of several expressions show their reads one after another. -/
theorem covers_exprs : ∀ es : List Expr,
    Covers (nodesOfAll (outlineOfExprs es)) ((readsOfExprs es).map .read) []
  | [] => Covers.nil
  | e :: rest => by
    rw [outlineOfExprs, readsOfExprs, nodesOfAll_append, List.map_append]
    exact (covers_expr e).append (covers_exprs rest)

end

mutual

/-- The nodes of a statement show its effects, by the recursion over its parts. -/
theorem covers_stmt : ∀ s : Stmt, Covers (nodesOfAll s.outline) s.effects []
  | .hole _ => Covers.nil
  | .declare _ => ⟨List.Perm.refl _, rfl, rfl, rfl⟩
  | .assign a => by
    rw [Stmt.outline, Stmt.effects, Expr.effects_eq_map_reads]
    refine Covers.node ?_ rfl
    rw [nodesOfAll_append]
    exact (covers_target (.inl rfl) a.target).reads_first (covers_expr a.value)
  | .branch _ condition body alternatives otherwise => by
    rw [Stmt.outline, Stmt.effects, Expr.effects_eq_map_reads]
    refine Covers.node ?_ rfl
    rw [nodesOfAll_append, nodesOfAll_append, nodesOfAll_append, List.append_assoc, List.append_assoc]
    exact (covers_expr condition).append ((covers_stmts body).append
      ((covers_alternatives alternatives).append (covers_stmts otherwise)))
  | .loopWhile _ condition body => by
    rw [Stmt.outline, Stmt.effects, Expr.effects_eq_map_reads]
    refine Covers.node ?_ rfl
    rw [nodesOfAll_append]
    exact (covers_expr condition).append (covers_stmts body)
  | .loopFor _ counter first last collection body => by
    have hbounds : Covers (nodesOfAll (first.outline ++ last.outline ++ collection.outline))
        ((first.reads ++ last.reads ++ collection.reads).map .read) [] := by
      rw [nodesOfAll_append, nodesOfAll_append, List.map_append, List.map_append]
      exact ((covers_expr first).append (covers_expr last)).append (covers_expr collection)
    have hhead := (covers_target (.inr rfl) counter).reads_first hbounds
    have hall := hhead.append (covers_stmts body)
    rw [Stmt.outline, Stmt.effects]
    refine Covers.node ?_ rfl
    simpa only [nodesOfAll_append, List.map_append, List.append_assoc, List.append_nil,
      Expr.effects_eq_map_reads] using hall
  | .leave _ value => by
    rw [Stmt.outline, Stmt.effects, Expr.effects_eq_map_reads]
    exact (covers_expr value).node rfl
  | .call c => by
    rw [Stmt.outline, Stmt.effects, effectsOfExprs_eq_map_reads]
    exact (covers_exprs c.arguments).node rfl
  | .generic _ => Covers.leaf rfl

/-- The nodes of statements show their effects one after another. -/
theorem covers_stmts : ∀ body : List Stmt,
    Covers (nodesOfAll (outlineOfStmts body)) (effectsOfStmts body) []
  | [] => Covers.nil
  | s :: rest => by
    rw [outlineOfStmts, effectsOfStmts, nodesOfAll_append]
    exact (covers_stmt s).append (covers_stmts rest)

/-- The nodes of further conditions show their effects one after another. -/
theorem covers_alternatives : ∀ alternatives : List Alternative,
    Covers (nodesOfAll (outlineOfAlternatives alternatives)) (effectsOfAlternatives alternatives) []
  | [] => Covers.nil
  | .mk condition body :: rest => by
    rw [outlineOfAlternatives, effectsOfAlternatives, Alternative.outline, Alternative.effects, nodesOfAll_append,
      nodesOfAll_append, Expr.effects_eq_map_reads]
    exact ((covers_expr condition).append (covers_stmts body)).append (covers_alternatives rest)

end

/-! ## Routines -/

/-- The outline of a routine of either kind. -/
def Routine.outlineAs (r : Routine) : RoutineKind → Outline
  | .function => r.functionOutline
  | .procedure => r.procedureOutline

/-- Where the parameters of a routine stand. -/
def Routine.parameterSpots (r : Routine) : List Spot :=
  (r.parameters.filterMap id).map fun p => (Node.parameter p).spot

/-- The parameters of a routine are defined on entry and stand in its head. -/
theorem covers_parameters (parameters : List (Option Parameter)) :
    Covers (nodesOfAll (outlineOfParameters parameters))
      ((parameters.filterMap id).map fun p => .define .parameter p.name p.span)
      ((parameters.filterMap id).map fun p => (Node.parameter p).spot) := by
  induction parameters with
  | nil => exact Covers.nil
  | cons slot rest ih =>
    cases slot with
    | none => exact ih
    | some p =>
      have hone : Covers [.parameter p] [.define .parameter p.name p.span] [(Node.parameter p).spot] :=
        ⟨List.Perm.refl _, rfl, rfl, rfl⟩
      exact hone.append ih

/-- Variables of the module are defined on entry without being mentioned in the routine. -/
theorem covers_moduleVariables (vs : List Declaration) :
    Covers [] (vs.map fun v => .define .moduleVariable v.name v.span) [] := by
  have hnone : ∀ keep : Option Origin → Bool, keep (some .moduleVariable) = false →
      spotsWhere keep (vs.map fun v => .define .moduleVariable v.name v.span) = [] := by
    intro keep hkeep
    simp [spotsWhere, Effect.origin?, hkeep]
  constructor
  · rw [hnone _ rfl]
    exact List.Perm.refl _
  · rw [hnone _ rfl]
    rfl
  · rfl
  · exact hnone _ rfl

/-- The nodes of a routine and its script mention the same variables. -/
theorem covers_routine (m : Option Module) (kind : RoutineKind) (r : Routine) :
    Covers (r.outlineAs kind).nodes (r.script m) r.parameterSpots := by
  have hchildren : Covers (nodesOfAll r.children) (r.script m) r.parameterSpots := by
    have hinside := (covers_parameters r.parameters).append (covers_stmts r.body)
    rw [List.append_nil] at hinside
    unfold Routine.children Routine.script Routine.entryEffects
    rw [nodesOfAll_append, List.append_assoc]
    cases m with
    | none => exact hinside
    | some m => exact (covers_moduleVariables _).append hinside
  have hnodes : nodesOfAll [r.outlineAs kind] = (r.outlineAs kind).nodes := by
    rw [nodesOfAll, nodesOfAll, List.append_nil]
  rw [← hnodes]
  cases kind with
  | function => exact hchildren.node rfl
  | procedure => exact hchildren.node rfl

/-! ## The graph of a routine -/

namespace Flow

/-- The events of all blocks, by the numbers of the blocks. -/
theorem flatMap_events (g : Graph) :
    (List.range g.blocks.length).flatMap g.events = g.blocks.flatMap Block.events := by
  have hevents : g.events = g.listOf Block.events := funext g.events_eq_listOf
  rw [hevents]
  unfold Graph.listOf
  induction g.blocks using List.reverseRecOn with
  | nil => rfl
  | append_singleton blocks block ih =>
    have hfront : (List.range blocks.length).flatMap
          (fun i => ((blocks ++ [block])[i]?.map Block.events).getD [])
        = (List.range blocks.length).flatMap fun i => (blocks[i]?.map Block.events).getD [] := by
      apply List.flatMap_congr
      intro i hi
      rw [List.getElem?_append_left (List.mem_range.mp hi)]
    rw [List.length_append, List.length_singleton, List.range_succ, List.flatMap_append, List.flatMap_append,
      hfront, ih]
    simp

/-- The events that define nothing stand where the effects that define nothing do. -/
theorem spots_eventsFrom (n : Nat) (es : List Effect) :
    ((eventsFrom n es).filter fun e => e.definition.isNone).map Event.spot = spotsWhere (· == none) es := by
  induction es generalizing n with
  | nil => rfl
  | cons e rest ih =>
    have hrest := ih (n + definitionCount [e])
    cases e with
    | define origin name span => exact hrest
    | read r => exact congrArg (_ :: ·) hrest

/-- The uses of a graph are the reads of the text. -/
theorem useSpots_ofRoutine (m : Option Module) (r : Routine) :
    (Graph.ofRoutine m r).useSpots = spotsWhere (· == none) (r.script m) := by
  have hevents := (tells_finalBuilder m r).events
  unfold Graph.useSpots
  rw [← flatMap_events, ← spots_eventsFrom 0, ← hevents, ofRoutine_eq]
  rfl

/-- The definitions of effects are numbered one after another. -/
theorem definition_eventsFrom (n : Nat) (es : List Effect) :
    (eventsFrom n es).filterMap Event.definition = List.range' n (definitionCount es) := by
  induction es generalizing n with
  | nil => rfl
  | cons e rest ih =>
    have hcount := definitionCount_append [e] rest
    rw [List.singleton_append] at hcount
    rw [eventsFrom, List.filterMap_cons, ih, hcount]
    cases e with
    | define origin name span =>
      show n :: List.range' (n + 1) (definitionCount rest) = List.range' n (1 + definitionCount rest)
      rw [Nat.add_comm 1, List.range'_succ]
    | read r =>
      show List.range' (n + 0) (definitionCount rest) = List.range' n (0 + definitionCount rest)
      rw [Nat.add_zero, Nat.zero_add]

/-- Each definition of a graph has one event, in the order of their numbers. -/
theorem definition_events_ofRoutine (m : Option Module) (r : Routine) :
    ((Graph.ofRoutine m r).blocks.flatMap Block.events).filterMap Event.definition
      = List.range (Graph.ofRoutine m r).definitions.length := by
  have htells := tells_finalBuilder m r
  have hscript := definition_eventsFrom 0 (r.script m)
  rw [← htells.events, ← htells.length_definitions, ← List.range_eq_range'] at hscript
  rw [← flatMap_events, ofRoutine_eq]
  exact hscript

/-- The definitions of a graph are those of the text. -/
theorem definitionSpots_ofRoutine (m : Option Module) (r : Routine) (origin : Origin) :
    (Graph.ofRoutine m r).definitionSpots origin = spotsWhere (· == some origin) (r.script m) := by
  have hunplaced : ∀ ds : List Definition,
      (ds.filter fun d => d.origin == origin).map Definition.spot
        = ((ds.map Definition.unplaced).filter fun d => d.origin == origin).map Definition.spot := by
    intro ds
    rw [List.filter_map, List.map_map]
    rfl
  have hscript : ∀ es : List Effect,
      ((es.flatMap (Effect.definition (Names.ofRoutine m r) 0)).filter fun d => d.origin == origin).map
          Definition.spot
        = spotsWhere (· == some origin) es := by
    intro es
    induction es with
    | nil => rfl
    | cons e rest ih =>
      have hcons := spotsWhere_append (· == some origin) [e] rest
      rw [List.singleton_append] at hcons
      rw [List.flatMap_cons, List.filter_append, List.map_append, ih, hcons]
      congr 1
      cases e with
      | read r => rfl
      | define o name span =>
        by_cases ho : o = origin
        · simp only [spotsWhere, Effect.definition, Effect.origin?, ho, List.filter_cons, beq_self_eq_true, if_true]
          rfl
        · simp [spotsWhere, Effect.definition, Effect.origin?, ho]
  have hdefinitions := (tells_finalBuilder m r).definitions
  unfold Graph.definitionSpots
  rw [hunplaced, ofRoutine_eq, hdefinitions, hscript]

/-- What is written as a reference is read, assigned to or counts a loop. -/
theorem spotsWhere_isReference (es : List Effect) :
    (spotsWhere isReference es).Perm (spotsWhere (· == none) es
      ++ (spotsWhere (· == some .assignment) es ++ spotsWhere (· == some .loopCounter) es)) := by
  induction es with
  | nil => exact List.Perm.refl _
  | cons e rest ih =>
    cases e with
    | read r => exact ih.cons _
    | define origin name span =>
      cases origin with
      | assignment => exact (ih.cons _).trans List.perm_middle.symm
      | loopCounter =>
        refine (ih.cons _).trans (List.perm_middle.symm.trans ?_)
        exact List.Perm.append_left _ List.perm_middle.symm
      | parameter => exact ih
      | moduleVariable => exact ih
      | declaration => exact ih

end Flow

/-! ## What is noted down on a walk -/

/-- The kind of the nodes that make a mention. -/
def MentionKind.nodeKind : MentionKind → Kind
  | .parameter => .parameter
  | .declaration => .declaration
  | .usage => .reference

/-- What the mention of a node tells wherever the node stands. -/
def Node.mention? : Node → Option (MentionKind × String × UInt64)
  | .parameter p => some (.parameter, p.name, p.span.line)
  | .declaration d => some (.declaration, d.name, d.span.line)
  | .reference r => some (.usage, r.name, r.span.line)
  | _ => none

/-- A mention tells the same of a node wherever it stands. -/
theorem map_ofNode? (n : Node) (c : Context) :
    (Mention.ofNode? n c).map (fun x => (x.kind, x.name, x.line)) = n.mention? := by
  cases n <;> rfl

/-- The mentions of one kind are the spots of the nodes of one kind. -/
theorem filterMap_mention? (kind : MentionKind) (ns : List Node) :
    ((ns.filterMap Node.mention?).filter fun x => x.1 == kind).map Prod.snd
      = (spotsOf kind.nodeKind ns).map fun p => (p.name, p.line) := by
  induction ns with
  | nil => rfl
  | cons n rest ih =>
    have hcons := spotsOf_append kind.nodeKind [n] rest
    rw [List.singleton_append] at hcons
    rw [hcons, List.map_append, ← ih, List.filterMap_cons]
    cases n <;> cases kind <;> rfl

/-- What a node adds to the mentions told so far. -/
def Node.tell (n : Node) (told : List (MentionKind × String × UInt64)) : List (MentionKind × String × UInt64) :=
  match n with
  | .module _ => []
  | _ => told ++ n.mention?.toList

/-- Nodes below a module only add to the mentions. -/
theorem foldl_tell {ns : List Node} (h : ∀ n ∈ ns, n.kind ≠ .module) (told : List (MentionKind × String × UInt64)) :
    ns.foldl (fun told n => n.tell told) told = told ++ ns.filterMap Node.mention? := by
  induction ns generalizing told with
  | nil => simp
  | cons n rest ih =>
    have hn : n.tell told = told ++ n.mention?.toList := by
      cases n with
      | module m => exact absurd rfl (h _ (List.mem_cons_self ..))
      | _ => rfl
    rw [List.foldl_cons, hn, ih fun x hx => h x (List.mem_cons_of_mem n hx), List.filterMap_cons]
    cases n.mention? with
    | none => simp
    | some x => simp

/-- No module stands in the outline of a routine. -/
theorem kind_ne_module_of_mem_outlineAs {kind : RoutineKind} {r : Routine} {n : Node}
    (hn : n ∈ (r.outlineAs kind).nodes) : n.kind ≠ .module := by
  cases kind with
  | function => exact kind_ne_module_of_mem_routine Kind.noConfusion hn
  | procedure => exact kind_ne_module_of_mem_routine Kind.noConfusion hn

/-- Each variable that the walk of a routine comes across is noted down. -/
theorem mentions_walkOutline (kind : RoutineKind) (r : Routine) (c : Context) :
    (walkOutline Context.surroundings Mentions.hook (r.outlineAs kind) c []).state.map
        (fun x => (x.kind, x.name, x.line))
      = (r.outlineAs kind).nodes.filterMap Node.mention? := by
  have hobserves : Observes Mentions.hook (fun ms => ms.map fun x => (x.kind, x.name, x.line)) Node.tell :=
    { panic_eq_none := fun _ _ _ => rfl
      view_state := fun n c ms => by
        unfold Node.tell
        rw [← map_ofNode? n c]
        cases n <;> simp [Mentions.hook, Mentions.observe, Mention.ofNode?] }
  have hwalk := (walkOutline_observes Context.surroundings hobserves (r.outlineAs kind) c []).2
  have hnodes : ∀ n ∈ (r.outlineAs kind).nodes, n.kind ≠ .module := fun n hn =>
    kind_ne_module_of_mem_outlineAs hn
  rw [hwalk, foldl_tell hnodes, List.map_nil, List.nil_append]

/-- The walk of a routine and its flow graph agree on the variables that it mentions. The references that are visited
are the uses, the assignments and the loop counters of the graph together, each as often as it stands in the text. The
visited declarations are the definitions by declaration, and the parameters those by parameter, in the same order. Each
definition has one event in some block. What is noted down on the walk tells these very nodes. -/
theorem visited_variables_eq_flow (m : Option Module) (kind : RoutineKind) (r : Routine) (c : Context) :
    let seen := (visits Context.surroundings Mentions.hook (r.outlineAs kind) c []).map Visit.node
    let noted := (walkOutline Context.surroundings Mentions.hook (r.outlineAs kind) c []).state
    let g := Graph.ofRoutine m r
    (spotsOf .reference seen).Perm
        (g.useSpots ++ g.definitionSpots .assignment ++ g.definitionSpots .loopCounter)
      ∧ spotsOf .declaration seen = g.definitionSpots .declaration
      ∧ (spotsOf .parameter seen = r.parameterSpots ∧ g.definitionSpots .parameter = r.parameterSpots)
      ∧ (g.blocks.flatMap Block.events).filterMap Event.definition = List.range g.definitions.length
      ∧ ∀ how : MentionKind, ((noted.filter fun x => x.kind == how).map fun x => (x.name, x.line))
          = (spotsOf how.nodeKind seen).map fun p => (p.name, p.line) := by
  intro seen noted g
  have hseen : seen = (r.outlineAs kind).nodes :=
    map_logOf_nodes Context.surroundings (fun _ _ _ => rfl) (fun _ _ _ => rfl) (r.outlineAs kind) c []
  have hcovers := covers_routine m kind r
  rw [hseen]
  refine ⟨?_, ?_, ?_, definition_events_ofRoutine m r, ?_⟩
  · rw [useSpots_ofRoutine, definitionSpots_ofRoutine, definitionSpots_ofRoutine, List.append_assoc]
    exact hcovers.references.trans (spotsWhere_isReference _)
  · rw [definitionSpots_ofRoutine]
    exact hcovers.declarations
  · rw [definitionSpots_ofRoutine]
    exact ⟨hcovers.parameters_visited, hcovers.parameters_defined⟩
  · intro how
    have hnoted : noted.map (fun x => (x.kind, x.name, x.line)) = (r.outlineAs kind).nodes.filterMap Node.mention? :=
      mentions_walkOutline kind r c
    rw [← filterMap_mention?, ← hnoted, List.filter_map, List.map_map]
    rfl

end ModuleLint
