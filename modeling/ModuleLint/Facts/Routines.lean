import ModuleLint.Facts.CallGraph
import ModuleLint.Walk.Context

/-!
# Facts about routines

While a module is walked, every routine is noted down with its parameters, its return statements and
the routines it calls. What is noted down about a routine is found by its node. Visiting a module
starts afresh.
-/

set_option autoImplicit false

namespace ModuleLint

/-- A formal parameter as noted down. -/
structure ParameterFact where
  name : String
  byValue : Bool
  hasDefault : Bool
deriving Repr, DecidableEq, Inhabited

/-- A return statement as noted down. -/
structure ReturnFact where
  line : UInt64
  hasValue : Bool
deriving Repr, DecidableEq, Inhabited

/-- All that is known of one routine. -/
structure RoutineFact where
  name : String
  kind : RoutineKind
  line : UInt64
  exported : Bool
  length : UInt64
  declaration : Routine
  parameters : List ParameterFact := []
  returns : List ReturnFact := []
  calls : List String := []

/-- Whether the routine has a return statement. -/
def RoutineFact.hasReturn (f : RoutineFact) : Bool := !f.returns.isEmpty

/-- The node that the facts are about. -/
def RoutineFact.node (f : RoutineFact) : RoutineNode := f.declaration.node f.kind

/-- All that is known of the routines of a module. A node is mapped to the place of its facts among
those of all routines, so these are kept only once. -/
structure RoutineFacts where
  routines : List RoutineFact
  byNode : Dictionary RoutineNode Nat
  graph : CallGraph

namespace RoutineFacts

/-- Nothing is known. -/
def empty : RoutineFacts :=
  { routines := [], byNode := Dictionary.empty, graph := CallGraph.empty }

/-- Notes down a routine. -/
def declare (facts : RoutineFacts) (kind : RoutineKind) (r : Routine) : RoutineFacts :=
  { facts with
    routines := facts.routines ++
      [{ name := r.name, kind := kind, line := r.span.line, exported := r.exported,
         length := r.span.length, declaration := r }]
    byNode := facts.byNode.put (r.node kind) facts.routines.length }

/-- Where the facts about the routine around the current node stand. -/
def currentPlace? (facts : RoutineFacts) (c : Context) : Option Nat :=
  c.routine.bind fun (kind, r) => facts.byNode.get? (r.node kind)

/-- What is known of the routine around the current node. -/
def current? (facts : RoutineFacts) (c : Context) : Option RoutineFact :=
  (facts.currentPlace? c).bind fun place => facts.routines[place]?

/-- Changes what is known of the routine around the current node. -/
def updateCurrent (facts : RoutineFacts) (c : Context) (f : RoutineFact → RoutineFact) :
    RoutineFacts :=
  match facts.currentPlace? c with
  | some place => { facts with routines := facts.routines.modify place f }
  | none => facts

/-- Notes down a call with a name. It is added to the routine only if the call graph did not know of
a call between routines of these names. -/
def addCall (facts : RoutineFacts) (c : Context) (callee : String) : RoutineFacts :=
  match facts.current? c with
  | some current =>
    if callee == "" then facts
    else
      let (graph, isNew) := facts.graph.addCall current.name callee
      let facts := { facts with graph := graph }
      if isNew then facts.updateCurrent c fun f => { f with calls := f.calls ++ [callee] }
      else facts
  | none => facts

/-- What a node adds to the facts. -/
def observe (n : Node) (c : Context) (facts : RoutineFacts) : RoutineFacts :=
  match n with
  | .module _ => empty
  | .function r => facts.declare .function r
  | .procedure r => facts.declare .procedure r
  | .parameter p => facts.updateCurrent c fun f =>
      { f with parameters := f.parameters ++
          [{ name := p.name, byValue := p.byValue, hasDefault := p.hasDefault }] }
  | .returnStatement span value => facts.updateCurrent c fun f =>
      { f with returns := f.returns ++ [{ line := span.line, hasValue := value.isPresent }] }
  | .call call => facts.addCall c call.name
  | _ => facts

/-- The hook that gathers facts about routines. -/
def hook : Hook Context RoutineFacts :=
  fun n c facts => { state := observe n c facts }

/-- The routines of one kind. -/
def ofKind (facts : RoutineFacts) (kind : RoutineKind) : List RoutineFact :=
  facts.routines.filter fun f => f.kind == kind

/-- What is known of the routine at a node. -/
def lookup? (facts : RoutineFacts) (node : RoutineNode) : Option RoutineFact :=
  (facts.byNode.get? node).bind fun place => facts.routines[place]?

/-- The routines that no routine of the module calls, without the exported ones if these are
exempt. -/
def unused (facts : RoutineFacts) (exemptExported : Bool) : List RoutineFact :=
  facts.routines.filter fun f => !facts.graph.isCalled f.name && !(exemptExported && f.exported)

/-- The routines with a call to their own name. -/
def selfCalling (facts : RoutineFacts) : List RoutineFact :=
  facts.routines.filter fun f => f.calls.contains f.name

end RoutineFacts

/-- Figures about the routines of a module. -/
structure RoutineStats where
  functions : Nat
  procedures : Nat
  functionsWithReturn : Nat
  functionsWithoutReturn : Nat
  averageFunctionLength : Float
  averageProcedureLength : Float
  callEdges : Nat
  mostCalled : List CallCount

namespace RoutineStats

/-- How many of the most called routines are named. -/
def mostCalledLimit : Int := 5

/-- The sum of lengths, modulo `2 ^ 64`. -/
def totalLength (fs : List RoutineFact) : UInt64 :=
  fs.foldl (fun total f => total + f.length) 0

/-- The average length; nothing has the average zero. -/
def averageLength (fs : List RoutineFact) : Float :=
  if fs.isEmpty then 0 else (totalLength fs).toFloat / fs.length.toUInt64.toFloat

/-- The figures about the routines known. -/
def ofFacts (facts : RoutineFacts) : RoutineStats :=
  let functions := facts.ofKind .function
  let procedures := facts.ofKind .procedure
  { functions := functions.length
    procedures := procedures.length
    functionsWithReturn := (functions.filter (·.hasReturn)).length
    functionsWithoutReturn := (functions.filter (!·.hasReturn)).length
    averageFunctionLength := averageLength functions
    averageProcedureLength := averageLength procedures
    callEdges := facts.graph.edges
    mostCalled := facts.graph.mostCalled mostCalledLimit }

end RoutineStats

end ModuleLint
