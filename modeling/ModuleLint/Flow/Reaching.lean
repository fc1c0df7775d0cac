import ModuleLint.Flow.Graph
import ModuleLint.Flow.IdSet

/-!
# Reaching definitions

A definition reaches a point when there is a path on which it is the last definition of its
variable. The sets at the starts of blocks are the least solution of the flow equations, found
with a queue of blocks: a block is evaluated again whenever the set at the end of one of its
predecessors has changed. A flag for each block tells whether it waits, so that none waits twice.
Every evaluation counts, and the search gives up when a budget of evaluations is used up.
-/

set_option autoImplicit false

namespace ModuleLint.Flow

/-- The numbers of all definitions of a variable. -/
def Graph.definitionsOf (g : Graph) (name : String) : IdSet :=
  IdSet.ofList <| (List.range g.definitions.length).filter fun i =>
    (g.definitions[i]?.map (·.variableName)) == some name

/-- What a whole block does to the definitions that reach it: those of `gen` come out of it whatever
reaches it, and those of `kill` do not pass through. -/
structure Transfer where
  gen : IdSet
  kill : IdSet
deriving Repr, DecidableEq

namespace Transfer

/-- A block without events. -/
def identity : Transfer := { gen := IdSet.empty, kill := IdSet.empty }

/-- One more event: a definition replaces all definitions of its variable. -/
def extend (g : Graph) (t : Transfer) (e : Event) : Transfer :=
  match e.definition with
  | some d =>
    let all := g.definitionsOf e.variableName
    { gen := (t.gen.diff all).insert d, kill := t.kill.union all }
  | none => t

/-- The effect of a block. What it generates itself is not killed. -/
def ofBlock (g : Graph) (b : Nat) : Transfer :=
  let t := (g.events b).foldl (extend g) identity
  { t with kill := t.kill.diff t.gen }

/-- The set at the end of a block, from the set at its start. -/
def apply (t : Transfer) (s : IdSet) : IdSet := (s.diff t.kill).union t.gen

end Transfer

/-- What the search knows: the sets at the starts and ends of blocks, the blocks still to be
evaluated, whether each block is one of them, and the number of evaluations. -/
structure Solver where
  starts : List IdSet
  ends : List IdSet
  queue : List Nat
  queued : List Bool
  evaluations : Nat
deriving Repr, DecidableEq

namespace Solver

/-- All sets are empty, and all reachable blocks wait in order. -/
def start (g : Graph) (reachable : List Bool) : Solver :=
  let waiting := (List.range g.blocks.length).filter fun b => reachable.getD b false
  { starts := g.blocks.map fun _ => IdSet.empty
    ends := g.blocks.map fun _ => IdSet.empty
    queue := waiting
    queued := waiting.foldl (fun flags b => flags.set b true) (g.blocks.map fun _ => false)
    evaluations := 0 }

/-- The union of the sets at the ends of the reachable predecessors. -/
def incoming (s : Solver) (g : Graph) (reachable : List Bool) (b : Nat) : IdSet :=
  (g.preds b).foldl (fun acc p =>
    if reachable.getD p false then acc.union (s.ends.getD p IdSet.empty) else acc) IdSet.empty

/-- Puts a block at the end of the queue unless it waits already. -/
def enqueue (s : Solver) (b : Nat) : Solver :=
  if s.queued.getD b false then s
  else { s with queue := s.queue ++ [b], queued := s.queued.set b true }

/-- Evaluates one block that has been taken from the queue. -/
def evaluate (g : Graph) (transfers : List Transfer) (reachable : List Bool) (s : Solver)
    (b : Nat) (rest : List Nat) : Solver :=
  let newStart := s.incoming g reachable b
  let newEnd := (transfers.getD b Transfer.identity).apply newStart
  let s := { s with
    starts := s.starts.set b newStart
    queue := rest
    queued := s.queued.set b false
    evaluations := s.evaluations + 1 }
  if newEnd == s.ends.getD b IdSet.empty then s
  else
    ((g.succs b).filter fun n => reachable.getD n false).foldl enqueue
      { s with ends := s.ends.set b newEnd }

/-- Evaluates blocks until the queue is empty; tells the number of evaluations made when the budget
does not suffice. -/
def run (g : Graph) (transfers : List Transfer) (reachable : List Bool) :
    Nat → Solver → Except Nat Solver
  | budget, s =>
    match s.queue, budget with
    | [], _ => .ok s
    | _ :: _, 0 => .error s.evaluations
    | b :: rest, budget + 1 =>
      run g transfers reachable budget (s.evaluate g transfers reachable b rest)

end Solver

/-- Finds the sets at the starts of all blocks, or tells after how many evaluations it gave up. -/
def solve (g : Graph) (budget : Nat) : Except Nat Solver :=
  let reachable := g.reachable
  let transfers := (List.range g.blocks.length).map (Transfer.ofBlock g)
  Solver.run g transfers reachable budget (Solver.start g reachable)

/-- A use of a variable with the definitions that may reach it. -/
structure Use where
  variableName : String
  line : UInt64
  column : UInt64
  block : Nat
  reaching : List Nat
deriving Repr, DecidableEq, Inhabited

/-- Uses found so far in a block, and the definitions that are alive after them. -/
structure Replay where
  live : IdSet
  uses : List Use
deriving Repr, DecidableEq

/-- Goes past one event. A definition removes all others of its variable. -/
def Replay.step (g : Graph) (block : Nat) (r : Replay) (e : Event) : Replay :=
  match e.definition with
  | some d => { r with live := (r.live.diff (g.definitionsOf e.variableName)).insert d }
  | none =>
    let reaching := (r.live.inter (g.definitionsOf e.variableName)).below g.definitions.length
    { r with uses := r.uses ++
        [{ variableName := e.variableName, line := e.line, column := e.column, block := block,
           reaching := reaching }] }

/-- The uses in a block, given the definitions that reach its start. -/
def usesInBlock (g : Graph) (start : IdSet) (b : Nat) : List Use :=
  ((g.events b).foldl (Replay.step g b) { live := start, uses := [] }).uses

/-- The uses of all blocks, reachable or not. -/
def usesOf (g : Graph) (s : Solver) : List Use :=
  (List.range g.blocks.length).flatMap fun b => usesInBlock g (s.starts.getD b IdSet.empty) b

end ModuleLint.Flow
