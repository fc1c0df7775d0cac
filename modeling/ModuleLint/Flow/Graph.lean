import ModuleLint.Tree.Basic

/-!
# Flow graphs

The flow graph of a routine has basic blocks, numbered in the order of their creation. A block is a
straight sequence of events: a variable is defined or it is used. Block zero is the entry and block
one the exit.
-/

set_option autoImplicit false

namespace ModuleLint.Flow

/-- The construct that a block belongs to. -/
inductive BlockKind where
  | entry
  | exit
  | thenBranch
  | elseIfTest
  | elseIfBranch
  | elseBranch
  | join
  | loopHeader
  | loopBody
  | unreachable
deriving Repr, DecidableEq, Inhabited

namespace BlockKind

/-- All kinds of blocks in order. -/
def all : List BlockKind :=
  [entry, exit, thenBranch, elseIfTest, elseIfBranch, elseBranch, join, loopHeader, loopBody,
    unreachable]

/-- The name of a kind of block. -/
def name : BlockKind → String
  | entry => "entry"
  | exit => "exit"
  | thenBranch => "then"
  | elseIfTest => "elseif-test"
  | elseIfBranch => "elseif"
  | elseBranch => "else"
  | join => "join"
  | loopHeader => "loop-header"
  | loopBody => "loop-body"
  | unreachable => "unreachable"

/-- The name of the kind with a given number. -/
def nameOfNumber (n : Nat) : String := (all[n]?.map name).getD "unknown"

end BlockKind

/-- What introduces a definition. -/
inductive Origin where
  | parameter
  | moduleVariable
  | declaration
  | assignment
  | loopCounter
deriving Repr, DecidableEq, Inhabited

namespace Origin

/-- All origins in order. -/
def all : List Origin := [parameter, moduleVariable, declaration, assignment, loopCounter]

/-- The name of an origin. -/
def name : Origin → String
  | parameter => "parameter"
  | moduleVariable => "module variable"
  | declaration => "declaration"
  | assignment => "assignment"
  | loopCounter => "loop counter"

/-- The name of the origin with a given number. -/
def nameOfNumber (n : Nat) : String := (all[n]?.map name).getD "unknown"

end Origin

/-- A point where a variable receives a value. It escapes when it is an assignment whose value
outlives the routine. Its number is its place among the definitions of its graph. -/
structure Definition where
  variableName : String
  line : UInt64
  column : UInt64
  origin : Origin
  block : Nat
  escapes : Bool
deriving Repr, DecidableEq, Inhabited

/-- A variable is defined, with the number of the definition, or it is used. There is no field for the
kind of an event: it defines the variable just if it has such a number. -/
structure Event where
  variableName : String
  line : UInt64
  column : UInt64
  definition : Option Nat
deriving Repr, DecidableEq, Inhabited

/-- A straight sequence of events with the blocks that follow and precede it. The number of a block is
its place among the blocks of its graph, so it has no field of its own. -/
structure Block where
  kind : BlockKind
  events : List Event := []
  succs : List Nat := []
  preds : List Nat := []
deriving Repr, DecidableEq, Inhabited

/-- The flow graph of a routine. -/
structure Graph where
  blocks : List Block
  definitions : List Definition
deriving Repr, DecidableEq, Inhabited

namespace Graph

/-- The number of the entry block. -/
def entry : Nat := 0

/-- The number of the exit block. -/
def exit : Nat := 1

/-- The blocks that follow a block. -/
def succs (g : Graph) (b : Nat) : List Nat :=
  match g.blocks[b]? with
  | some block => block.succs
  | none => []

/-- The blocks that precede a block. -/
def preds (g : Graph) (b : Nat) : List Nat :=
  match g.blocks[b]? with
  | some block => block.preds
  | none => []

/-- The events of a block. -/
def events (g : Graph) (b : Nat) : List Event :=
  match g.blocks[b]? with
  | some block => block.events
  | none => []

/-- A search along the edges: the blocks still to be looked at, and for each block whether it has
been seen. -/
structure Search where
  stack : List Nat
  seen : List Bool
deriving Repr, DecidableEq

/-- Puts a block on the stack unless it has been seen. -/
def Search.push (s : Search) (b : Nat) : Search :=
  if s.seen.getD b true then s else { stack := b :: s.stack, seen := s.seen.set b true }

/-- Looks at blocks until none is left. Each block is put on the stack once, so as many steps as
there are blocks are enough. -/
def Search.run (g : Graph) : Nat → Search → Search
  | 0, s => s
  | fuel + 1, s =>
    match s.stack with
    | [] => s
    | b :: rest => Search.run g fuel ((g.succs b).foldl Search.push { s with stack := rest })

/-- The search before its first step: only the given block has been seen, and it waits. -/
def Search.start (g : Graph) (b : Nat) : Search :=
  Search.push { stack := [], seen := g.blocks.map fun _ => false } b

/-- For each block whether it can be reached from the given one. -/
def reachableFrom (g : Graph) (start : Nat) : List Bool :=
  (Search.run g g.blocks.length (Search.start g start)).seen

/-- For each block whether it can be reached from the entry. -/
def reachable (g : Graph) : List Bool := g.reachableFrom entry

end Graph

end ModuleLint.Flow
