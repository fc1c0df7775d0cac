import ModuleLint.Dictionary
import ModuleLint.Distinct
import ModuleLint.Flow.Lowering
import ModuleLint.Flow.Reaching
import ModuleLint.Walk.Context

/-!
# The data flow of routines

For each routine the definitions that reach each use are found, and from them two kinds of findings:
assignments whose value nothing can observe, and uses that no definition can reach. A routine whose
analysis does not finish within its budget does not keep the others from being analysed.
-/

set_option autoImplicit false

namespace ModuleLint.Flow

/-- The number of block evaluations that a routine may take unless configured otherwise. -/
def defaultBudget : Nat := 100000

/-- The budget to use; a configured one that is not positive is ignored. -/
def budgetOf (configured : Int) : Nat :=
  if configured > 0 then configured.toNat else defaultBudget

/-- The analysis of a routine used up its budget. -/
structure BudgetError where
  routine : String
  evaluations : Nat
deriving Repr, DecidableEq

/-- What a search says that has used up its budget. -/
def budgetMessage (evaluations : Nat) : String :=
  "reaching definitions did not converge" ++ " after " ++ toString evaluations ++ " iterations"

/-- The text of a budget that was used up: the routine before what its search says. -/
def BudgetError.message (e : BudgetError) : String :=
  "routine " ++ e.routine ++ ": " ++ budgetMessage e.evaluations

/-- The data flow of one routine. -/
structure Result where
  kind : RoutineKind
  routine : Routine
  graph : Graph
  evaluations : Nat
  uses : List Use
  reachable : List Bool

namespace Result

/-- The node of the routine. -/
def node (r : Result) : RoutineNode := r.routine.node r.kind

/-- The variables of the routine: those defined in the order of their definitions, then those that
are only used. -/
def variableNames (r : Result) : List String :=
  distinct (r.graph.definitions.map (·.variableName) ++ r.uses.map (·.variableName))

/-- The uses of one variable. -/
def usesOf (r : Result) (name : String) : List Use :=
  r.uses.filter fun u => u.variableName == name

/-- Whether a block can be reached from the entry. -/
def isReachable (r : Result) (b : Nat) : Bool := r.reachable.getD b false

/-- The definitions with their numbers. -/
def numbered (r : Result) : List (Nat × Definition) :=
  (List.range r.graph.definitions.length).zip r.graph.definitions

/-- The definitions that reach some use. -/
def usedDefinitions (r : Result) : IdSet :=
  IdSet.ofList (r.uses.flatMap (·.reaching))

/-- The assignments in reachable code that do not outlive the routine and reach no use. -/
def deadDefinitions (r : Result) : List (Nat × Definition) :=
  let used := r.usedDefinitions
  r.numbered.filter fun (i, d) =>
    d.origin == .assignment && !d.escapes && r.isReachable d.block && !used.contains i

/-- The uses in reachable code that no definition reaches, of variables that the routine defines
somewhere. -/
def undefinedUses (r : Result) : List Use :=
  r.uses.filter fun u =>
    u.reaching.isEmpty && r.isReachable u.block
      && r.graph.definitions.any fun d => d.variableName == u.variableName

end Result

/-- The data flow of one routine of a module, if there is a module. -/
def analyzeRoutine (budget : Nat) (m : Option Module) (kind : RoutineKind) (r : Routine) :
    Except BudgetError Result :=
  let g := Graph.ofRoutine m r
  match solve g budget with
  | .ok s => .ok { kind := kind, routine := r, graph := g, evaluations := s.evaluations,
                   uses := usesOf g s, reachable := g.reachable }
  | .error n => .error { routine := r.name, evaluations := n }

/-- What is known about the data flow of a module: its routines one by one and by their nodes, and
those whose budget was used up. -/
structure Findings where
  module? : Option Module
  results : List Result
  byNode : Dictionary RoutineNode Result
  errors : List BudgetError

namespace Findings

/-- Nothing is known. -/
def empty : Findings := { module? := none, results := [], byNode := Dictionary.empty, errors := [] }

/-- Nothing is known yet of the routines of a module. -/
def start (m : Module) : Findings := { empty with module? := some m }

/-- At the start the module is known. -/
@[simp]
theorem module?_start (m : Module) : (start m).module? = some m := rfl

/-- At the start there are no results. -/
@[simp]
theorem results_start (m : Module) : (start m).results = [] := rfl

/-- At the start nothing has failed. -/
@[simp]
theorem errors_start (m : Module) : (start m).errors = [] := rfl

/-- Analyses one more routine. -/
def add (budget : Nat) (f : Findings) (kind : RoutineKind) (r : Routine) : Findings :=
  match analyzeRoutine budget f.module? kind r with
  | .ok result =>
    { f with results := f.results ++ [result], byNode := f.byNode.put (r.node kind) result }
  | .error e => { f with errors := f.errors ++ [e] }

/-- What is known about the data flow of the routine at a node. -/
def result? (f : Findings) (node : RoutineNode) : Option Result := f.byNode.get? node

/-- What a node adds: a module starts afresh, and a routine is analysed. -/
def observe (budget : Nat) (n : Node) (f : Findings) : Findings :=
  match n with
  | .module m => start m
  | .function r => f.add budget .function r
  | .procedure r => f.add budget .procedure r
  | _ => f

/-- The hook that analyses the routines it meets. -/
def hook {γ : Type} (budget : Nat) : Hook γ Findings :=
  fun n _ f => { state := observe budget n f }

end Findings

/-- The data flow of all routines of a module, functions first. -/
def analyze (budget : Nat) (m : Module) : Findings :=
  let withFunctions :=
    (m.functions.filterMap id).foldl (fun f r => f.add budget .function r) (Findings.start m)
  (m.procedures.filterMap id).foldl (fun f r => f.add budget .procedure r) withFunctions

end ModuleLint.Flow
