import ModuleLint.Tree.Basic

/-!
# Outlines: the order of the nodes of a tree

The outline of a tree lists its nodes in the order in which they are visited: each node before its
children, and the children slot by slot. Holes have no outline. Everything that walks a tree walks
its outline, so this module alone decides what is visited and when.
-/

set_option autoImplicit false

namespace ModuleLint

/-- A node with the outlines of its children. -/
inductive Outline where
  | node (n : Node) (children : List Outline)

/-- The node at the top of an outline. -/
def Outline.root : Outline → Node
  | .node n _ => n

mutual

/-- The nodes of an outline, each before its children. -/
def Outline.nodes : Outline → List Node
  | .node n children => n :: nodesOfAll children

/-- The nodes of several outlines, one after another. -/
def nodesOfAll : List Outline → List Node
  | [] => []
  | o :: rest => o.nodes ++ nodesOfAll rest

end

/-- The nodes of outlines put one after another. -/
theorem nodesOfAll_append (os rest : List Outline) :
    nodesOfAll (os ++ rest) = nodesOfAll os ++ nodesOfAll rest := by
  induction os with
  | nil => rfl
  | cons o os ih => rw [List.cons_append, nodesOfAll, nodesOfAll, ih, List.append_assoc]

/-- The outline of a mention of a variable. -/
def Reference.outline (r : Reference) : Outline :=
  .node (.reference r) []

mutual

/-- The outline of an expression: operands and arguments in order. -/
def Expr.outline : Expr → List Outline
  | .hole _ => []
  | .reference r => [r.outline]
  | .binary span operator left right =>
    [.node (.binaryOperation span operator left right) (left.outline ++ right.outline)]
  | .literal l => [.node (.literal l) []]
  | .call span name arguments =>
    [.node (.call { span := span, name := name, arguments := arguments })
      (outlineOfExprs arguments)]
  | .generic g => [.node (.expression g) []]

/-- The outlines of several expressions. -/
def outlineOfExprs : List Expr → List Outline
  | [] => []
  | e :: rest => e.outline ++ outlineOfExprs rest

end

/-- The outline of an optional mention of a variable. -/
def outlineOfTarget : Option Reference → List Outline
  | some r => [r.outline]
  | none => []

mutual

/-- The outline of a statement. An assignment shows its target before its value, a branching
statement its conditions and blocks in the order of the text, and a loop what it runs over before
its body. -/
def Stmt.outline : Stmt → List Outline
  | .hole _ => []
  | .declare d => [.node (.declaration d) []]
  | .assign a => [.node (.assignment a) (outlineOfTarget a.target ++ a.value.outline)]
  | .branch span condition body alternatives otherwise =>
    [.node (.ifStatement span condition body alternatives otherwise)
      (condition.outline ++ outlineOfStmts body ++ outlineOfAlternatives alternatives
        ++ outlineOfStmts otherwise)]
  | .loopWhile span condition body =>
    [.node (.whileLoop span condition body) (condition.outline ++ outlineOfStmts body)]
  | .loopFor span counter first last collection body =>
    [.node (.forLoop span counter first last collection body)
      (outlineOfTarget counter ++ first.outline ++ last.outline ++ collection.outline
        ++ outlineOfStmts body)]
  | .leave span value => [.node (.returnStatement span value) value.outline]
  | .call c => [.node (.call c) (outlineOfExprs c.arguments)]
  | .generic g => [.node (.expression g) []]

/-- The outlines of a block. -/
def outlineOfStmts : List Stmt → List Outline
  | [] => []
  | s :: rest => s.outline ++ outlineOfStmts rest

/-- The outline of one further condition and its block. -/
def Alternative.outline : Alternative → List Outline
  | .mk condition body => condition.outline ++ outlineOfStmts body

/-- The outlines of all further conditions. -/
def outlineOfAlternatives : List Alternative → List Outline
  | [] => []
  | a :: rest => a.outline ++ outlineOfAlternatives rest

end

/-- The outline of a list of parameters. -/
def outlineOfParameters (parameters : List (Option Parameter)) : List Outline :=
  parameters.filterMap fun p => p.map fun p => .node (.parameter p) []

/-- The outlines below a routine: parameters, then the body. -/
def Routine.children (r : Routine) : List Outline :=
  outlineOfParameters r.parameters ++ outlineOfStmts r.body

/-- The outline of a function. -/
def Routine.functionOutline (r : Routine) : Outline :=
  .node (.function r) r.children

/-- The outline of a procedure. -/
def Routine.procedureOutline (r : Routine) : Outline :=
  .node (.procedure r) r.children

/-- The outline of a module: variables, functions, procedures. -/
def Module.outline (m : Module) : Outline :=
  .node (.module m)
    (m.declarations.filterMap (fun d => d.map fun d => .node (.declaration d) [])
      ++ m.functions.filterMap (fun r => r.map Routine.functionOutline)
      ++ m.procedures.filterMap (fun r => r.map Routine.procedureOutline))

end ModuleLint
