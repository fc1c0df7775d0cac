import ModuleLint.Dictionary

/-!
# Call graphs

A call graph is told call by call who calls whom. It keeps five containers, each for other
questions: the callers and the callees as lists in the order first seen, the callees of each caller
in such an order, and, for quick answers, the callees of each caller and all callees once more as
sets. Adding a call looks into the sets and keeps the others in step.
-/

set_option autoImplicit false

namespace ModuleLint

/-- How many routines call a routine. -/
structure CallCount where
  name : String
  count : Nat
deriving Repr, DecidableEq, Inhabited

/-- The callers and the callees in order, the callees of each caller in order (`rows`) and as a set
(`seen`), and the set of all callees (`known`). The order of a set means nothing. -/
structure CallGraph where
  callerList : List String
  calleeList : List String
  rows : Dictionary String (List String)
  seen : Dictionary String (List String)
  known : List String
deriving Repr, DecidableEq, Inhabited

namespace CallGraph

/-- The graph without calls. -/
def empty : CallGraph :=
  { callerList := [], calleeList := [], rows := Dictionary.empty, seen := Dictionary.empty
    known := [] }

/-- Whether the callee is in the set of the caller. -/
def sees (g : CallGraph) (caller callee : String) : Bool :=
  ((g.seen.get? caller).getD []).contains callee

/-- Makes sure that a caller has a set of callees. A caller without one is new. -/
def addCaller (g : CallGraph) (caller : String) : CallGraph :=
  match g.seen.get? caller with
  | some _ => g
  | none => { g with seen := g.seen.put caller [], callerList := g.callerList ++ [caller] }

/-- Adds a callee to those of a caller. -/
def addEdge (g : CallGraph) (caller callee : String) : CallGraph :=
  { g with
    seen := g.seen.put caller (callee :: (g.seen.get? caller).getD [])
    rows := g.rows.put caller ((g.rows.get? caller).getD [] ++ [callee]) }

/-- Adds a callee to those of the whole graph. -/
def addCallee (g : CallGraph) (callee : String) : CallGraph :=
  if g.known.contains callee then g
  else { g with known := callee :: g.known, calleeList := g.calleeList ++ [callee] }

/-- Adds a call and tells whether it is new. -/
def addCall (g : CallGraph) (caller callee : String) : CallGraph × Bool :=
  let g := g.addCaller caller
  if g.sees caller callee then (g, false) else ((g.addEdge caller callee).addCallee callee, true)

/-- The routines that call something. -/
def callers (g : CallGraph) : List String := g.callerList

/-- The routines that a caller calls. -/
def callees (g : CallGraph) (caller : String) : List String := (g.rows.get? caller).getD []

/-- Whether anything calls the routine. -/
def isCalled (g : CallGraph) (callee : String) : Bool := g.known.contains callee

/-- The number of calls. -/
def edges (g : CallGraph) : Nat := g.rows.entries.foldl (fun n row => n + row.2.length) 0

/-- The number of routines that call the given one. -/
def inDegree (g : CallGraph) (callee : String) : Nat :=
  g.callerList.countP fun caller => g.sees caller callee

/-- All callees, the most called ones first; equally often called ones in the order first seen. -/
def ranking (g : CallGraph) : List CallCount :=
  (g.calleeList.map fun callee =>
      { name := callee, count := g.inDegree callee : CallCount }).mergeSort
    (fun a b => decide (a.count ≥ b.count))

/-- The front of the ranking; a limit that is not positive is none. -/
def mostCalled (g : CallGraph) (limit : Int) : List CallCount :=
  if limit > 0 then g.ranking.take limit.toNat else g.ranking

/-- The callers that call themselves. -/
def recursive (g : CallGraph) : List String :=
  g.callerList.filter fun caller => g.sees caller caller

/-- The callees of all callers. -/
def adjacency (g : CallGraph) : Dictionary String (List String) := g.rows

end CallGraph

end ModuleLint
