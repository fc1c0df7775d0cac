import ModuleLint.Document.Basic
import ModuleLint.Text.Case
import ModuleLint.Text.Lines

/-!
# From documents to trees

Each entry becomes one node, by its tag. A range is kept only if it starts on a line of its own
and does not run backwards. An entry with an unknown tag becomes a generic node without children,
and null entries of lists disappear. A loop over a collection always has one: where the document
names none, a generic node stands in for it.

Beside the tree a tally is kept: how many entries became nodes, how many ranges were dropped and
how many tags were unknown.
-/

set_option autoImplicit false

namespace ModuleLint.Document

/-- Counts of what decoding made of a document. -/
structure Tally where
  nodes : Nat := 0
  droppedRanges : Nat := 0
  genericNodes : Nat := 0
deriving Repr, DecidableEq, Inhabited

namespace Tally

/-- The counts of two parts together. -/
def plus (a b : Tally) : Tally :=
  { nodes := a.nodes + b.nodes
    droppedRanges := a.droppedRanges + b.droppedRanges
    genericNodes := a.genericNodes + b.genericNodes }

instance : Add Tally := ⟨plus⟩

end Tally

/-- Whether a range can be kept. -/
def isSound (r : Range) : Bool := r.start.line != 0 && r.isForward

/-- The place of a node: the range of its entry, if it can be kept. -/
def spanOf (range : Option Range) : Span := range.filter isSound

/-- What a range adds to the tally: one when it is dropped. -/
def rangeTally (range : Option Range) : Tally :=
  { droppedRanges := if range.any (fun r => !isSound r) then 1 else 0 }

/-- What an entry adds to the tally as one node. -/
def nodeTally (range : Option Range) : Tally := rangeTally range + { nodes := 1 }

/-- The tags of statements and expressions. -/
inductive Tag where
  | assignment
  | callStatement
  | ifStatement
  | whileStatement
  | forStatement
  | forEachStatement
  | returnStatement
  | variableDeclaration
  | literal
  | variable
  | binaryOperation
  | call
  | unknown
deriving Repr, DecidableEq

/-- The tag of a loop over a collection. -/
def forEachTag : String := "forEachStatement"

/-- The tag that a text stands for. -/
def Tag.ofText (s : String) : Tag :=
  if s == "assignment" then assignment
  else if s == "callStatement" then callStatement
  else if s == "ifStatement" then ifStatement
  else if s == "whileStatement" then whileStatement
  else if s == "forStatement" then forStatement
  else if s == forEachTag then forEachStatement
  else if s == "returnStatement" then returnStatement
  else if s == "variableDeclaration" then variableDeclaration
  else if s == "literal" then literal
  else if s == "variable" then .variable
  else if s == "binaryOperation" then binaryOperation
  else if s == "call" then call
  else unknown

/-- An entry as a mention of a variable, whatever its tag. -/
def Entry.reference? : Entry → Option Reference
  | .null => none
  | .node info .. => some { span := spanOf info.range, name := info.name }

/-- The tally of an entry as a mention of a variable. -/
def Entry.referenceTally : Entry → Tally
  | .null => {}
  | .node info .. => nodeTally info.range

mutual

/-- An entry as an expression. -/
def Entry.expr : Entry → Expr
  | .null => .hole
  | .node info left right _ _ _ _ _ _ _ arguments _ _ _ _ =>
    match Tag.ofText info.tag with
    | .literal => .literal
        { span := spanOf info.range
          typeName := (LiteralType.ofName (Text.lower info.literalType)).name
          value := info.value }
    | .variable => .reference { span := spanOf info.range, name := info.name }
    | .binaryOperation => .binary (spanOf info.range) info.operator left.expr right.expr
    | .call => .call (spanOf info.range) info.name (exprsOf arguments)
    | .callStatement => .call (spanOf info.range) info.name (exprsOf arguments)
    | _ => .generic { span := spanOf info.range, tag := info.tag }

/-- The entries of a list as expressions; null entries disappear. -/
def exprsOf : List Entry → List Expr
  | [] => []
  | .null :: rest => exprsOf rest
  | e :: rest => e.expr :: exprsOf rest

end

mutual

/-- The tally of an entry as an expression. -/
def Entry.exprTally : Entry → Tally
  | .null => {}
  | .node info left right _ _ _ _ _ _ _ arguments _ _ _ _ =>
    match Tag.ofText info.tag with
    | .literal => nodeTally info.range
    | .variable => nodeTally info.range
    | .binaryOperation => nodeTally info.range + left.exprTally + right.exprTally
    | .call => nodeTally info.range + exprsTally arguments
    | .callStatement => nodeTally info.range + exprsTally arguments
    | _ => nodeTally info.range + { genericNodes := 1 }

/-- The tally of the entries of a list as expressions. -/
def exprsTally : List Entry → Tally
  | [] => {}
  | e :: rest => e.exprTally + exprsTally rest

end

/-- The collection that a loop runs over; a generic node if the document names none. -/
def collectionOf : Expr → Expr
  | .hole _ => .generic { span := none, tag := forEachTag }
  | e => e

mutual

/-- An entry as a statement. -/
def Entry.stmt : Entry → Stmt
  | .null => .hole
  | .node info _ _ target expression condition counter start stop collection arguments
      thenStatements elseStatements statements clauses =>
    match Tag.ofText info.tag with
    | .assignment => .assign
        { span := spanOf info.range, target := target.reference?, value := expression.expr }
    | .callStatement => .call
        { span := spanOf info.range, name := info.name, arguments := exprsOf arguments }
    | .ifStatement => .branch (spanOf info.range) condition.expr (stmtsOf thenStatements)
        (alternativesOf clauses) (stmtsOf elseStatements)
    | .whileStatement => .loopWhile (spanOf info.range) condition.expr (stmtsOf statements)
    | .forStatement => .loopFor (spanOf info.range) counter.reference? start.expr stop.expr .hole
        (stmtsOf statements)
    | .forEachStatement => .loopFor (spanOf info.range) counter.reference? .hole .hole
        (collectionOf collection.expr) (stmtsOf statements)
    | .returnStatement => .leave (spanOf info.range) expression.expr
    | .variableDeclaration => .declare
        { span := spanOf info.range, name := info.name, exported := info.exported }
    | _ => .generic { span := spanOf info.range, tag := info.tag }

/-- The entries of a list as statements; null entries disappear. -/
def stmtsOf : List Entry → List Stmt
  | [] => []
  | .null :: rest => stmtsOf rest
  | e :: rest => e.stmt :: stmtsOf rest

/-- A further condition of a branching statement. -/
def Clause.alternative : Clause → Alternative
  | .mk condition statements => .mk condition.expr (stmtsOf statements)

/-- The further conditions of a branching statement. -/
def alternativesOf : List Clause → List Alternative
  | [] => []
  | c :: rest => c.alternative :: alternativesOf rest

end

mutual

/-- The tally of an entry as a statement. -/
def Entry.stmtTally : Entry → Tally
  | .null => {}
  | .node info _ _ target expression condition counter start stop collection arguments
      thenStatements elseStatements statements clauses =>
    match Tag.ofText info.tag with
    | .assignment => nodeTally info.range + target.referenceTally + expression.exprTally
    | .callStatement => nodeTally info.range + exprsTally arguments
    | .ifStatement => nodeTally info.range + condition.exprTally + stmtsTally thenStatements
        + stmtsTally elseStatements + clausesTally clauses
    | .whileStatement => nodeTally info.range + condition.exprTally + stmtsTally statements
    | .forStatement => nodeTally info.range + counter.referenceTally + start.exprTally
        + stop.exprTally + stmtsTally statements
    | .forEachStatement => nodeTally info.range + counter.referenceTally + collection.exprTally
        + stmtsTally statements
    | .returnStatement => nodeTally info.range + expression.exprTally
    | .variableDeclaration => nodeTally info.range
    | _ => nodeTally info.range + { genericNodes := 1 }

/-- The tally of the entries of a list as statements. -/
def stmtsTally : List Entry → Tally
  | [] => {}
  | e :: rest => e.stmtTally + stmtsTally rest

/-- The tally of a further condition. -/
def Clause.tally : Clause → Tally
  | .mk condition statements => condition.exprTally + stmtsTally statements

/-- The tally of all further conditions. -/
def clausesTally : List Clause → Tally
  | [] => {}
  | c :: rest => c.tally + clausesTally rest

end

/-- The sum of tallies. -/
def sumTally (ts : List Tally) : Tally := ts.foldr (· + ·) {}

/-- A variable of the module. -/
def VariableEntry.declaration (v : VariableEntry) : Declaration :=
  { span := spanOf v.range, name := v.name, exported := v.exported }

/-- A parameter of a routine. -/
def ParameterEntry.parameter (p : ParameterEntry) : Parameter :=
  { span := spanOf p.range, name := p.name, byValue := p.byValue, hasDefault := p.hasDefault }

/-- A routine with its number among those of its kind. -/
def RoutineEntry.routine (r : RoutineEntry) (number : Nat) : Routine :=
  { span := spanOf r.range
    name := r.name
    exported := r.exported
    parameters := r.parameters.map fun p => some p.parameter
    body := stmtsOf r.body
    number := number }

/-- The tally of a routine. -/
def RoutineEntry.tally (r : RoutineEntry) : Tally :=
  nodeTally r.range + sumTally (r.parameters.map fun p => nodeTally p.range) + stmtsTally r.body

/-- A module with the lines of its source. The given name is used where the document names none. -/
def ModuleEntry.module (m : ModuleEntry) (source? : Option String) (fallback : String) : Module :=
  { span := spanOf m.range
    name := if m.name == "" then fallback else m.name
    declarations := m.declarations.map fun v => some v.declaration
    functions := m.functions.mapIdx fun number r => some (r.routine number)
    procedures := m.procedures.mapIdx fun number r => some (r.routine number)
    source := match source? with
      | some s => Text.lines s
      | none => [] }

/-- The tally of a module, which is no node itself. -/
def ModuleEntry.tally (m : ModuleEntry) : Tally :=
  rangeTally m.range + sumTally (m.declarations.map fun v => nodeTally v.range)
    + sumTally (m.functions.map RoutineEntry.tally) + sumTally (m.procedures.map RoutineEntry.tally)

end ModuleLint.Document
