import ModuleLint.Location

/-!
# Syntax trees of modules

A module declares variables, functions and procedures. Trees come from outside and may have holes:
a slot for an expression or a statement can be empty (`Expr.hole`, `Stmt.hole`), and a list of
declarations can have empty entries (`none`). Some holes still tell the kind of node that is missing
there. A call and a construct of unknown shape can stand both
as a statement and as an expression.
-/

set_option autoImplicit false

namespace ModuleLint

/-- The kinds of nodes. -/
inductive Kind where
  | module
  | function
  | procedure
  | parameter
  | declaration
  | reference
  | assignment
  | ifStatement
  | whileLoop
  | forLoop
  | returnStatement
  | binaryOperation
  | literal
  | call
  | expression
deriving Repr, DecidableEq, Inhabited

namespace Kind

/-- All kinds in order. -/
def all : List Kind :=
  [module, function, procedure, parameter, declaration, reference, assignment, ifStatement,
    whileLoop, forLoop, returnStatement, binaryOperation, literal, call, expression]

/-- The name of a kind in messages. -/
def name : Kind → String
  | module => "Module"
  | function => "Function"
  | procedure => "Procedure"
  | parameter => "Parameter"
  | declaration => "VariableDeclaration"
  | reference => "VariableReference"
  | assignment => "Assignment"
  | ifStatement => "IfStatement"
  | whileLoop => "WhileLoop"
  | forLoop => "ForLoop"
  | returnStatement => "ReturnStatement"
  | binaryOperation => "BinaryOperation"
  | literal => "Literal"
  | call => "FunctionCall"
  | expression => "Expression"

/-- The name of the kind with a given number; a number without a kind is shown itself. -/
def nameOfNumber (n : Nat) : String :=
  match all[n]? with
  | some k => k.name
  | none => "Kind(" ++ toString n ++ ")"

end Kind

/-- A constant as written in a literal. Numbers are kept as the bits of a double, and the keys of a
record are distinct and in increasing order. -/
inductive Constant where
  | null
  | bool (b : Bool)
  | number (bits : UInt64)
  | text (s : String)
  | list (items : List Constant)
  | record (fields : List (String × Constant))
deriving Repr, Inhabited

/-- What a literal denotes. -/
inductive LiteralType where
  | number
  | string
  | boolean
  | date
  | undefined
  | null
  | unknown
deriving Repr, DecidableEq, Inhabited

namespace LiteralType

/-- The literal types that are recognised by name. -/
def named : List LiteralType := [number, string, boolean, date, undefined, null]

/-- The name of a literal type. -/
def name : LiteralType → String
  | number => "number"
  | string => "string"
  | boolean => "boolean"
  | date => "date"
  | undefined => "undefined"
  | null => "null"
  | unknown => "unknown"

/-- The literal type of a name in lower case; any other name is unknown. -/
def ofName (s : String) : LiteralType :=
  (named.find? (fun t => t.name == s)).getD unknown

end LiteralType

/-- A formal parameter of a routine. -/
structure Parameter where
  span : Span
  name : String
  byValue : Bool
  hasDefault : Bool
deriving Repr, DecidableEq, Inhabited

/-- The declaration of a variable, of a module or inside a routine. -/
structure Declaration where
  span : Span
  name : String
  exported : Bool
deriving Repr, DecidableEq, Inhabited

/-- A mention of a variable: where it is read, assigned to or counts a loop. -/
structure Reference where
  span : Span
  name : String
deriving Repr, DecidableEq, Inhabited

/-- A constant value. -/
structure Literal where
  span : Span
  typeName : String
  value : Constant
deriving Repr, Inhabited

/-- A construct of unknown shape, with the tag it came with. -/
structure Generic where
  span : Span
  tag : String
deriving Repr, DecidableEq, Inhabited

/-- Expressions. -/
inductive Expr where
  | hole (missing : Option Kind := none)
  | reference (r : Reference)
  | binary (span : Span) (operator : String) (left right : Expr)
  | literal (l : Literal)
  | call (span : Span) (name : String) (arguments : List Expr)
  | generic (g : Generic)
deriving Repr, Inhabited

/-- Whether a slot for an expression is filled. -/
def Expr.isPresent : Expr → Bool
  | .hole _ => false
  | _ => true

/-- The call of a routine by its name. -/
structure Call where
  span : Span
  name : String
  arguments : List Expr
deriving Repr, Inhabited

/-- The assignment of a value to a variable. -/
structure Assignment where
  span : Span
  target : Option Reference
  value : Expr
deriving Repr, Inhabited

mutual

/-- Statements. -/
inductive Stmt where
  | hole (missing : Option Kind := none)
  | declare (d : Declaration)
  | assign (a : Assignment)
  | branch (span : Span) (condition : Expr) (body : List Stmt) (alternatives : List Alternative)
      (otherwise : List Stmt)
  | loopWhile (span : Span) (condition : Expr) (body : List Stmt)
  | loopFor (span : Span) (counter : Option Reference) (first last collection : Expr)
      (body : List Stmt)
  | leave (span : Span) (value : Expr)
  | call (c : Call)
  | generic (g : Generic)

/-- A further condition of a branching statement, with what is done when it holds. -/
inductive Alternative where
  | mk (condition : Expr) (body : List Stmt)

end

instance : Inhabited Stmt := ⟨.hole⟩

/-- The two kinds of routines. -/
inductive RoutineKind where
  | function
  | procedure
deriving Repr, DecidableEq, Inhabited

/-- The name of a kind of routine. -/
def RoutineKind.name : RoutineKind → String
  | .function => "function"
  | .procedure => "procedure"

/-- A function or a procedure. The number tells nodes apart that look the same. -/
structure Routine where
  span : Span
  name : String
  exported : Bool
  parameters : List (Option Parameter)
  body : List Stmt
  number : Nat := 0
deriving Inhabited

/-- The identity of the node of a routine. A function and a procedure are never the same node. -/
structure RoutineNode where
  kind : RoutineKind
  number : Nat
deriving Repr, DecidableEq, Inhabited

/-- The node of a routine of a given kind. -/
def Routine.node (r : Routine) (kind : RoutineKind) : RoutineNode :=
  { kind := kind, number := r.number }

/-- A module with the lines of its source, if these are known. -/
structure Module where
  span : Span
  name : String
  declarations : List (Option Declaration)
  functions : List (Option Routine)
  procedures : List (Option Routine)
  source : List String
deriving Inhabited

/-- A module without any declarations. -/
def Module.empty (name : String) : Module :=
  { span := none, name := name, declarations := [], functions := [], procedures := []
    source := [] }

/-- The same module as another tree, whose routines of each kind are numbered from the given number
on. -/
def Module.renumber (m : Module) (first : Nat) : Module :=
  let renumbered : List (Option Routine) → List (Option Routine) :=
    List.mapIdx fun i slot => slot.map fun r => { r with number := first + i }
  { m with functions := renumbered m.functions, procedures := renumbered m.procedures }

/-- A node of a tree, one constructor for each kind. -/
inductive Node where
  | module (m : Module)
  | function (r : Routine)
  | procedure (r : Routine)
  | parameter (p : Parameter)
  | declaration (d : Declaration)
  | reference (r : Reference)
  | assignment (a : Assignment)
  | ifStatement (span : Span) (condition : Expr) (body : List Stmt)
      (alternatives : List Alternative) (otherwise : List Stmt)
  | whileLoop (span : Span) (condition : Expr) (body : List Stmt)
  | forLoop (span : Span) (counter : Option Reference) (first last collection : Expr)
      (body : List Stmt)
  | returnStatement (span : Span) (value : Expr)
  | binaryOperation (span : Span) (operator : String) (left right : Expr)
  | literal (l : Literal)
  | call (c : Call)
  | expression (g : Generic)

namespace Node

/-- The kind of a node. -/
def kind : Node → Kind
  | module _ => .module
  | function _ => .function
  | procedure _ => .procedure
  | parameter _ => .parameter
  | declaration _ => .declaration
  | reference _ => .reference
  | assignment _ => .assignment
  | ifStatement .. => .ifStatement
  | whileLoop .. => .whileLoop
  | forLoop .. => .forLoop
  | returnStatement .. => .returnStatement
  | binaryOperation .. => .binaryOperation
  | literal _ => .literal
  | call _ => .call
  | expression _ => .expression

/-- Where a node stands. -/
def span : Node → Span
  | module m => m.span
  | function r => r.span
  | procedure r => r.span
  | parameter p => p.span
  | declaration d => d.span
  | reference r => r.span
  | assignment a => a.span
  | ifStatement s .. => s
  | whileLoop s .. => s
  | forLoop s .. => s
  | returnStatement s _ => s
  | binaryOperation s .. => s
  | literal l => l.span
  | call c => c.span
  | expression g => g.span

/-- What a node is called: its name, its operator or its type tag; empty for other nodes. -/
def label : Node → String
  | module m => m.name
  | function r => r.name
  | procedure r => r.name
  | parameter p => p.name
  | declaration d => d.name
  | reference r => r.name
  | binaryOperation _ operator .. => operator
  | literal l => l.typeName
  | call c => c.name
  | expression g => g.tag
  | _ => ""

/-- The line on which a node starts, zero if unknown. -/
def line (n : Node) : UInt64 := n.span.line

end Node

end ModuleLint
