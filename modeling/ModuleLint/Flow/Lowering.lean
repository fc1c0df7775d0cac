import ModuleLint.Flow.Graph

/-!
# From routines to flow graphs

The body of a routine is lowered statement by statement. At any time one block is current and takes
the next events; branches, loops and returns end it and make another one current. Variables of the
module that the routine does not declare itself, and then the parameters, are defined in the entry
block.
-/

set_option autoImplicit false

namespace ModuleLint

mutual

/-- The mentions of variables that an expression reads, from left to right. -/
def Expr.reads : Expr → List Reference
  | .hole _ => []
  | .reference r => [r]
  | .binary _ _ left right => left.reads ++ right.reads
  | .literal _ => []
  | .call _ _ arguments => readsOfExprs arguments
  | .generic _ => []

/-- The mentions of variables that several expressions read. -/
def readsOfExprs : List Expr → List Reference
  | [] => []
  | e :: rest => e.reads ++ readsOfExprs rest

end

mutual

/-- The names that a statement declares, at any depth. -/
def Stmt.locals : Stmt → List String
  | .declare d => [d.name]
  | .branch _ _ body alternatives otherwise =>
    localsOfStmts body ++ localsOfAlternatives alternatives ++ localsOfStmts otherwise
  | .loopWhile _ _ body => localsOfStmts body
  | .loopFor _ _ _ _ _ body => localsOfStmts body
  | _ => []

/-- The names that a block declares. -/
def localsOfStmts : List Stmt → List String
  | [] => []
  | s :: rest => s.locals ++ localsOfStmts rest

/-- The names that the block of a further condition declares. -/
def Alternative.locals : Alternative → List String
  | .mk _ body => localsOfStmts body

/-- The names that the blocks of all further conditions declare. -/
def localsOfAlternatives : List Alternative → List String
  | [] => []
  | a :: rest => a.locals ++ localsOfAlternatives rest

end

namespace Flow

/-- The names that a routine knows: those it declares, its parameters and those passed by reference,
and the variables of the module. -/
structure Names where
  locals : List String
  parameters : List String
  references : List String
  moduleVariables : List String
deriving Repr, DecidableEq

namespace Names

/-- The names known to a routine of a module, if there is a module. -/
def ofRoutine (m : Option Module) (r : Routine) : Names :=
  let parameters := r.parameters.filterMap id
  { locals := localsOfStmts r.body
    parameters := parameters.map (·.name)
    references := (parameters.filter (!·.byValue)).map (·.name)
    moduleVariables := match m with
      | some m => (m.declarations.filterMap id).map (·.name)
      | none => [] }

/-- Whether the routine declares the name itself. -/
def isLocal (s : Names) (name : String) : Bool := s.locals.contains name

/-- Whether an assignment to the name can be observed after the routine has returned: the name is
not declared in the routine, and it is a parameter passed by reference or, if it is no parameter
at all, a variable of the module. -/
def escapes (s : Names) (name : String) : Bool :=
  if s.isLocal name then false
  else if s.parameters.contains name then s.references.contains name
  else s.moduleVariables.contains name

end Names

/-- A graph under construction and the number of its current block. -/
structure Builder where
  graph : Graph
  current : Nat
deriving Repr, DecidableEq

namespace Builder

/-- Only entry and exit exist, and the entry is current. -/
def start : Builder :=
  { graph := { blocks := [{ kind := .entry }, { kind := .exit }], definitions := [] }
    current := Graph.entry }

/-- Changes one block. -/
def modifyBlock (b : Builder) (i : Nat) (f : Block → Block) : Builder :=
  { b with graph := { b.graph with blocks := b.graph.blocks.modify i f } }

/-- Draws an edge. -/
def addEdge (b : Builder) (source target : Nat) : Builder :=
  (b.modifyBlock source fun blk => { blk with succs := blk.succs ++ [target] }).modifyBlock target
    fun blk => { blk with preds := blk.preds ++ [source] }

/-- Adds a block without edges and makes it current. -/
def startBlock (b : Builder) (kind : BlockKind) : Builder :=
  { graph := { b.graph with blocks := b.graph.blocks ++ [{ kind := kind }] }
    current := b.graph.blocks.length }

/-- Adds a block that follows `source` and makes it current. -/
def startAfter (b : Builder) (source : Nat) (kind : BlockKind) : Builder :=
  (b.startBlock kind).addEdge source b.graph.blocks.length

/-- Adds an event to the current block. -/
def addEvent (b : Builder) (e : Event) : Builder :=
  b.modifyBlock b.current fun blk => { blk with events := blk.events ++ [e] }

/-- Defines a variable in the current block. -/
def define (names : Names) (origin : Origin) (name : String) (span : Span) (b : Builder) :
    Builder :=
  let definition : Definition :=
    { variableName := name, line := span.line, column := span.column, origin := origin,
      block := b.current, escapes := origin == .assignment && names.escapes name }
  let event : Event :=
    { variableName := name, line := span.line, column := span.column,
      definition := some b.graph.definitions.length }
  { b with graph := { b.graph with definitions := b.graph.definitions ++ [definition] } }.addEvent
    event

/-- Uses a variable in the current block. -/
def use (b : Builder) (r : Reference) : Builder :=
  b.addEvent
    { variableName := r.name, line := r.span.line, column := r.span.column, definition := none }

/-- Uses what an expression reads. -/
def read (b : Builder) (e : Expr) : Builder :=
  e.reads.foldl use b

/-- Uses what the arguments of a call read. -/
def readAll (b : Builder) (es : List Expr) : Builder :=
  (readsOfExprs es).foldl use b

/-- Defines the variable that is mentioned, if one is. -/
def defineTarget (names : Names) (origin : Origin) (target : Option Reference) (b : Builder) :
    Builder :=
  match target with
  | some r => b.define names origin r.name r.span
  | none => b

/-- Ends the routine here. What follows starts in a block without predecessors. -/
def endRoutine (b : Builder) : Builder :=
  (b.addEdge b.current Graph.exit).startBlock .unreachable

/-- Adds a block in which the given ends meet and makes it current. -/
def meet (b : Builder) (ends : List Nat) : Builder :=
  let target := b.graph.blocks.length
  ends.foldl (fun b source => b.addEdge source target) (b.startBlock .join)

/-- Closes the body of a loop: back to its header, and from there on to what follows the loop. -/
def endLoop (b : Builder) (header : Nat) : Builder :=
  (b.addEdge b.current header).startAfter header .join

end Builder

/-- The state of a branching statement between its branches: the block that takes the next test, and
the blocks in which the branches so far have ended. -/
structure Branching where
  builder : Builder
  test : Nat
  ends : List Nat
deriving Repr, DecidableEq

/-- A branch has been lowered: the current block is one of its ends. -/
def Branching.close (b : Branching) (builder : Builder) : Branching :=
  { b with builder := builder, ends := b.ends ++ [builder.current] }

mutual

/-- Lowers a statement. -/
def lowerStmt (names : Names) : Stmt → Builder → Builder
  | .hole _, b => b
  | .declare d, b => b.define names .declaration d.name d.span
  | .assign a, b => (b.read a.value).defineTarget names .assignment a.target
  | .branch _ condition body alternatives otherwise, b =>
    let b := b.read condition
    let first : Branching := { builder := b, test := b.current, ends := [] }
    let opened := first.close (lowerStmts names body (b.startAfter b.current .thenBranch))
    let tested := lowerAlternatives names alternatives opened
    let closed := match otherwise with
      | [] => { tested with ends := tested.ends ++ [tested.test] }
      | s :: rest =>
        tested.close (lowerStmts names rest
          (lowerStmt names s (tested.builder.startAfter tested.test .elseBranch)))
    closed.builder.meet closed.ends
  | .loopWhile _ condition body, b =>
    let b := (b.startAfter b.current .loopHeader).read condition
    let header := b.current
    (lowerStmts names body (b.startAfter header .loopBody)).endLoop header
  | .loopFor _ counter first last collection body, b =>
    let b := ((b.read first).read last).read collection
    let b := (b.startAfter b.current .loopHeader).defineTarget names .loopCounter counter
    let header := b.current
    (lowerStmts names body (b.startAfter header .loopBody)).endLoop header
  | .leave _ value, b => (b.read value).endRoutine
  | .call c, b => b.readAll c.arguments
  | .generic _, b => b

/-- Lowers a block of statements. -/
def lowerStmts (names : Names) : List Stmt → Builder → Builder
  | [], b => b
  | s :: rest, b => lowerStmts names rest (lowerStmt names s b)

/-- Lowers a further condition with its block. -/
def lowerAlternative (names : Names) : Alternative → Branching → Branching
  | .mk condition body, br =>
    let b := (br.builder.startAfter br.test .elseIfTest).read condition
    let test := b.current
    { br with test := test }.close (lowerStmts names body (b.startAfter test .elseIfBranch))

/-- Lowers all further conditions. -/
def lowerAlternatives (names : Names) : List Alternative → Branching → Branching
  | [], br => br
  | a :: rest, br => lowerAlternatives names rest (lowerAlternative names a br)

end

/-- Defines the variables of the module that the routine does not declare itself. -/
def defineModuleVariables (names : Names) (m : Option Module) (b : Builder) : Builder :=
  match m with
  | some m => (m.declarations.filterMap id).foldl (fun b v =>
      if names.isLocal v.name then b else b.define names .moduleVariable v.name v.span) b
  | none => b

/-- Defines the parameters. -/
def defineParameters (names : Names) (r : Routine) (b : Builder) : Builder :=
  (r.parameters.filterMap id).foldl (fun b p => b.define names .parameter p.name p.span) b

/-- The flow graph of a routine of a module, if there is a module. -/
def Graph.ofRoutine (m : Option Module) (r : Routine) : Graph :=
  let names := Names.ofRoutine m r
  let b := defineParameters names r (defineModuleVariables names m Builder.start)
  let b := lowerStmts names r.body b
  (b.addEdge b.current Graph.exit).graph

end Flow

end ModuleLint
