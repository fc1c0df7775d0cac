import ModuleLint.Proofs.Document.Denotation
import ModuleLint.Proofs.Walk.Addresses

/-!
# Where the nodes of a decoded tree come from

Each node of a decoded tree comes from one object of the document, and the objects are listed here in the order in
which the nodes are visited (`ModuleEntry.origins`). Only the collection that a loop lacks comes from nothing: the node that
stands in for it has the origin `placeholder`.

The tally of a document is made in an order of its own. `Accounts` compares it with the list of origins: every origin
adds a fixed amount, which its object alone decides (`Origin.tally`), and there are as many placeholders as loops that lack
a collection. It is closed under putting lists one after another, so each entry is accounted for by its tag and its slots
(`accounts_expr`, `accounts_stmt`).
-/

set_option autoImplicit false

namespace ModuleLint.Document

/-! ## Tallies -/

namespace Tally

/-- Tallies are told by their three counters. -/
theorem ext {a b : Tally} (hnodes : a.nodes = b.nodes) (hdropped : a.droppedRanges = b.droppedRanges)
    (hgeneric : a.genericNodes = b.genericNodes) : a = b := by
  cases a
  cases b
  simp_all

/-- Nodes add up. -/
@[simp] theorem nodes_add (a b : Tally) : (a + b).nodes = a.nodes + b.nodes := rfl

/-- Dropped ranges add up. -/
@[simp] theorem droppedRanges_add (a b : Tally) :
    (a + b).droppedRanges = a.droppedRanges + b.droppedRanges := rfl

/-- Generic nodes add up. -/
@[simp] theorem genericNodes_add (a b : Tally) : (a + b).genericNodes = a.genericNodes + b.genericNodes := rfl

/-- It does not matter how tallies are bracketed. -/
theorem add_assoc (a b c : Tally) : a + b + c = a + (b + c) := by
  apply ext <;> simp [Nat.add_assoc]

/-- It does not matter in which order tallies are added. -/
theorem add_comm (a b : Tally) : a + b = b + a := by
  apply ext <;> simp [Nat.add_comm]

/-- An empty tally in front adds nothing. -/
theorem zero_add (a : Tally) : {} + a = a := by
  apply ext <;> simp

/-- An empty tally at the end adds nothing. -/
theorem add_zero (a : Tally) : a + {} = a := by
  apply ext <;> simp

instance : Std.Associative (α := Tally) (· + ·) := ⟨add_assoc⟩

instance : Std.Commutative (α := Tally) (· + ·) := ⟨add_comm⟩

end Tally

/-- Lists of tallies add up to the sum of their parts. -/
theorem sumTally_append (ts us : List Tally) : sumTally (ts ++ us) = sumTally ts + sumTally us := by
  induction ts with
  | nil => exact (Tally.zero_add _).symm
  | cons t rest ih =>
    show t + sumTally (rest ++ us) = t + sumTally rest + sumTally us
    rw [ih, Tally.add_assoc]

/-! ## Origins -/

/-- What a node of a decoded tree comes from. An entry is read as a mention, an expression or a statement. -/
inductive Origin where
  | module (m : ModuleEntry)
  | declaration (v : VariableEntry)
  | function (r : RoutineEntry)
  | procedure (r : RoutineEntry)
  | parameter (p : ParameterEntry)
  | mention (c : Content)
  | expression (c : Content)
  | statement (c : Content)
  | placeholder

/-- What an entry adds to the tally where the given tags are known. -/
def Content.tally (known : List String) (c : Content) : Tally :=
  if c.tag ∈ known then nodeTally c.info.range else nodeTally c.info.range + { genericNodes := 1 }

namespace Origin

/-- The range that the document gives. -/
def range : Origin → Option Range
  | module m => m.range
  | declaration v => v.range
  | function r => r.range
  | procedure r => r.range
  | parameter p => p.range
  | mention c => c.info.range
  | expression c => c.info.range
  | statement c => c.info.range
  | placeholder => none

/-- The nodes that come from an origin. -/
inductive Yields : Origin → Node → Prop
  | module {m : ModuleEntry} {x : Module} (h : m.Denotes x) : Yields (module m) (.module x)
  | declaration (v : VariableEntry) : Yields (declaration v) (.declaration v.declaration)
  | function {r : RoutineEntry} {x : Routine} (h : r.Denotes x) : Yields (function r) (.function x)
  | procedure {r : RoutineEntry} {x : Routine} (h : r.Denotes x) : Yields (procedure r) (.procedure x)
  | parameter (p : ParameterEntry) : Yields (parameter p) (.parameter p.parameter)
  | mention (c : Content) : Yields (mention c) (.reference c.mention)
  | expression {c : Content} {x : Expr} {n : Node} (h : c.DenotesExpr x) (hnode : x.node? = some n) :
      Yields (expression c) n
  | statement {c : Content} {x : Stmt} {n : Node} (h : c.DenotesStmt x) (hnode : x.node? = some n) :
      Yields (statement c) n
  | placeholder : Yields placeholder (.expression { span := none, tag := "forEachStatement" })

/-- What an origin adds to the tally. -/
def tally : Origin → Tally
  | module m => rangeTally m.range
  | declaration v => nodeTally v.range
  | function r => nodeTally r.range
  | procedure r => nodeTally r.range
  | parameter p => nodeTally p.range
  | mention c => nodeTally c.info.range
  | expression c => c.tally expressionTags
  | statement c => c.tally statementTags
  | placeholder => {}

def isPlaceholder : Origin → Bool
  | placeholder => true
  | _ => false

/-- Whether the origin is a loop over a collection that the document does not name. -/
def lacksCollection : Origin → Bool
  | statement c => c.tag == "forEachStatement" && c.collection.content?.isNone
  | _ => false

end Origin

def mentionOrigins (e : Entry) : List Origin := (e.content?.map Origin.mention).toList

mutual

/-- The origins of the nodes of an expression. -/
def Entry.exprOrigins : Entry → List Origin
  | .null => []
  | .node info left right target expression condition counter start stop collection arguments
      thenStatements elseStatements statements clauses =>
    .expression { info, left, right, target, expression, condition, counter, start, stop, collection,
                  arguments, thenStatements, elseStatements, statements, clauses }
      :: match Tag.ofText info.tag with
        | .binaryOperation => left.exprOrigins ++ right.exprOrigins
        | .call => exprsOrigins arguments
        | .callStatement => exprsOrigins arguments
        | _ => []

def exprsOrigins : List Entry → List Origin
  | [] => []
  | e :: rest => e.exprOrigins ++ exprsOrigins rest

end

/-- The origins of the nodes of a collection. -/
def collectionOrigins : Entry → List Origin
  | .null => [.placeholder]
  | e => e.exprOrigins

mutual

/-- The origins of the nodes of a statement. -/
def Entry.stmtOrigins : Entry → List Origin
  | .null => []
  | .node info left right target expression condition counter start stop collection arguments
      thenStatements elseStatements statements clauses =>
    .statement { info, left, right, target, expression, condition, counter, start, stop, collection,
                 arguments, thenStatements, elseStatements, statements, clauses }
      :: match Tag.ofText info.tag with
        | .assignment => mentionOrigins target ++ expression.exprOrigins
        | .callStatement => exprsOrigins arguments
        | .ifStatement => condition.exprOrigins ++ stmtsOrigins thenStatements ++ clausesOrigins clauses
            ++ stmtsOrigins elseStatements
        | .whileStatement => condition.exprOrigins ++ stmtsOrigins statements
        | .forStatement => mentionOrigins counter ++ start.exprOrigins ++ stop.exprOrigins
            ++ stmtsOrigins statements
        | .forEachStatement => mentionOrigins counter ++ collectionOrigins collection
            ++ stmtsOrigins statements
        | .returnStatement => expression.exprOrigins
        | _ => []

def stmtsOrigins : List Entry → List Origin
  | [] => []
  | e :: rest => e.stmtOrigins ++ stmtsOrigins rest

def Clause.origins : Clause → List Origin
  | .mk condition statements => condition.exprOrigins ++ stmtsOrigins statements

def clausesOrigins : List Clause → List Origin
  | [] => []
  | c :: rest => c.origins ++ clausesOrigins rest

end

/-- The origins of the nodes below a routine. -/
def RoutineEntry.origins (r : RoutineEntry) : List Origin :=
  r.parameters.map .parameter ++ stmtsOrigins r.body

/-- The origins of the nodes of a module, in the order in which the nodes are visited. -/
def ModuleEntry.origins (m : ModuleEntry) : List Origin :=
  .module m :: (m.declarations.map .declaration ++ m.functions.flatMap (fun r => .function r :: r.origins)
    ++ m.procedures.flatMap fun r => .procedure r :: r.origins)

/-! ## Accounts -/

/-- The nodes come from the origins, the tally is what these add, and all placeholders but `pending` ones belong to loops
among the origins. -/
structure Accounts (os : List Origin) (ns : List Node) (t : Tally) (pending : Nat) : Prop where
  yields : List.Forall₂ Origin.Yields os ns
  tally_eq : t = sumTally (os.map Origin.tally)
  balance : os.countP Origin.isPlaceholder = os.countP Origin.lacksCollection + pending

namespace Accounts

variable {os os' : List Origin} {ns ns' : List Node} {t t' : Tally} {k k' : Nat}

/-- Nothing accounts for nothing. -/
theorem nil : Accounts [] [] {} 0 := ⟨.nil, rfl, rfl⟩

/-- Lists that are accounted for can be put one after another. -/
theorem append (h : Accounts os ns t k) (h' : Accounts os' ns' t' k') :
    Accounts (os ++ os') (ns ++ ns') (t + t') (k + k') where
  yields := List.rel_append h.yields h'.yields
  tally_eq := by rw [List.map_append, sumTally_append, ← h.tally_eq, ← h'.tally_eq]
  balance := by
    rw [List.countP_append, List.countP_append, h.balance, h'.balance]
    omega

/-- A node goes before those below it. If it is a loop that lacks a collection, the one pending placeholder is its own. -/
theorem cons {o : Origin} {n : Node} (hyields : o.Yields n) (hplaceholder : o.isPlaceholder = false)
    (h : Accounts os ns t (if o.lacksCollection then 1 else 0)) :
    Accounts (o :: os) (n :: ns) (o.tally + t) 0 where
  yields := .cons hyields h.yields
  tally_eq := by
    rw [h.tally_eq]
    rfl
  balance := by
    rw [List.countP_cons, List.countP_cons, h.balance, hplaceholder]
    simp

/-- A node without others below it. -/
theorem leaf {o : Origin} {n : Node} (hyields : o.Yields n) (hplaceholder : o.isPlaceholder = false)
    (hlacks : o.lacksCollection = false) : Accounts [o] [n] o.tally 0 := by
  have h := cons hyields hplaceholder (by rw [hlacks]; exact nil)
  rwa [Tally.add_zero] at h

/-- The placeholder of a loop adds nothing, and its loop is pending. -/
theorem placeholder : Accounts [.placeholder] [.expression { span := none, tag := "forEachStatement" }] {} 1 :=
  ⟨.cons .placeholder .nil, rfl, rfl⟩

/-- Lists of which each part is accounted for. -/
theorem flatMap {α : Type} {origins : α → List Origin} {nodes : α → List Node} {tally : α → Tally}
    (h : ∀ x, Accounts (origins x) (nodes x) (tally x) 0) (xs : List α) :
    Accounts (xs.flatMap origins) (xs.flatMap nodes) (sumTally (xs.map tally)) 0 := by
  induction xs with
  | nil => exact nil
  | cons x rest ih => exact (h x).append ih

end Accounts

/-- The same for outlines that are put one after another. -/
theorem Accounts.beside {os os' : List Origin} {as bs : List Outline} {t t' : Tally} {k k' : Nat}
    (h : Accounts os (nodesOfAll as) t k) (h' : Accounts os' (nodesOfAll bs) t' k') :
    Accounts (os ++ os') (nodesOfAll (as ++ bs)) (t + t') (k + k') := by
  rw [nodesOfAll_append]
  exact h.append h'

/-! ## Expressions -/

/-- A node comes before those below it. -/
theorem nodesOfAll_singleton (n : Node) (children : List Outline) :
    nodesOfAll [.node n children] = n :: nodesOfAll children := by
  rw [nodesOfAll, nodesOfAll, List.append_nil, Outline.nodes]

/-- A mention is a leaf, and a missing one is nothing. -/
theorem accounts_mention (e : Entry) :
    Accounts (mentionOrigins e) (nodesOfAll (outlineOfTarget e.reference?)) e.referenceTally 0 := by
  cases e with
  | null => exact .nil
  | node => exact .leaf (.mention _) rfl rfl

/-- An expression of a known tag is accounted for by what is below it. -/
theorem Accounts.expression {c : Content} {x : Expr} {n : Node} {children : List Outline} {os : List Origin}
    {t t' : Tally} (hdenotes : c.DenotesExpr x) (hnode : x.node? = some n)
    (houtline : x.outline = [.node n children]) (htag : c.tag ∈ expressionTags)
    (h : Accounts os (nodesOfAll children) t 0) (htally : t' = nodeTally c.info.range + t) :
    Accounts (.expression c :: os) (nodesOfAll x.outline) t' 0 := by
  have hcons : Accounts (.expression c :: os) (n :: nodesOfAll children) ((Origin.expression c).tally + t) 0 :=
    .cons (.expression hdenotes hnode) rfl h
  rw [houtline, nodesOfAll_singleton, htally]
  rwa [Origin.tally, Content.tally, if_pos htag] at hcons

/-- An expression of a known tag with nothing below it. -/
theorem Accounts.expression_leaf {c : Content} {x : Expr} {n : Node} (hdenotes : c.DenotesExpr x)
    (hnode : x.node? = some n) (houtline : x.outline = [.node n []]) (htag : c.tag ∈ expressionTags) :
    Accounts [.expression c] (nodesOfAll x.outline) (nodeTally c.info.range) 0 :=
  .expression hdenotes hnode houtline htag .nil (Tally.add_zero _).symm

/-- An expression of an unknown tag counts as a generic node. -/
theorem Accounts.expression_generic {c : Content} (htag : c.tag ∉ expressionTags) :
    Accounts [.expression c] (nodesOfAll (Expr.generic c.generic).outline)
      (nodeTally c.info.range + { genericNodes := 1 }) 0 := by
  have hleaf : Accounts [.expression c] [.expression c.generic] (Origin.expression c).tally 0 :=
    .leaf (.expression (.generic htag) rfl) rfl rfl
  rw [Expr.outline, nodesOfAll_singleton]
  rwa [Origin.tally, Content.tally, if_neg htag] at hleaf

/-- A null entry of a list adds nothing. -/
theorem nodesOfAll_exprsOf_cons (e : Entry) (rest : List Entry) :
    nodesOfAll (outlineOfExprs (exprsOf (e :: rest)))
      = nodesOfAll e.expr.outline ++ nodesOfAll (outlineOfExprs (exprsOf rest)) := by
  cases e with
  | null => rw [exprsOf, Entry.expr, Expr.outline, nodesOfAll, List.nil_append]
  | node => simp only [exprsOf, outlineOfExprs, nodesOfAll_append]

mutual

/-- Expressions are accounted for, tag by tag. -/
theorem accounts_expr : ∀ e : Entry,
    Accounts e.exprOrigins (nodesOfAll e.expr.outline) e.exprTally 0
  | .null => by
    rw [Entry.exprOrigins, Entry.expr, Entry.exprTally, Expr.outline]
    exact .nil
  | .node info left right target expression condition counter start stop collection arguments
      thenStatements elseStatements statements clauses => by
    have hdenotes := denotes_expr (.node info left right target expression condition counter start stop
      collection arguments thenStatements elseStatements statements clauses) _ rfl
    have hoperands := (accounts_expr left).beside (accounts_expr right)
    have harguments := accounts_exprs arguments
    rw [Entry.expr] at hdenotes
    rw [Entry.exprOrigins, Entry.expr, Entry.exprTally]
    revert hdenotes
    cases htag : Tag.ofText info.tag with
    | literal =>
      intro hdenotes
      exact .expression_leaf hdenotes rfl (by rw [Expr.outline]) ((mem_expressionTags htag).mpr (by decide))
    | «variable» =>
      intro hdenotes
      exact .expression_leaf hdenotes rfl (by rw [Expr.outline]; rfl) ((mem_expressionTags htag).mpr (by decide))
    | binaryOperation =>
      intro hdenotes
      exact .expression hdenotes rfl (by rw [Expr.outline]) ((mem_expressionTags htag).mpr (by decide)) hoperands
        (Tally.add_assoc _ _ _)
    | call =>
      intro hdenotes
      exact .expression hdenotes rfl (by rw [Expr.outline]) ((mem_expressionTags htag).mpr (by decide)) harguments rfl
    | callStatement =>
      intro hdenotes
      exact .expression hdenotes rfl (by rw [Expr.outline]) ((mem_expressionTags htag).mpr (by decide)) harguments rfl
    | _ =>
      intro _
      exact .expression_generic ((mem_expressionTags htag).not.mpr (by decide))

/-- Lists of expressions are accounted for, one after another. -/
theorem accounts_exprs : ∀ es : List Entry,
    Accounts (exprsOrigins es) (nodesOfAll (outlineOfExprs (exprsOf es))) (exprsTally es) 0
  | [] => .nil
  | e :: rest => by
    rw [exprsOrigins, nodesOfAll_exprsOf_cons, exprsTally]
    exact (accounts_expr e).append (accounts_exprs rest)

end

/-! ## Statements -/

/-- A collection that is missing leaves a placeholder pending. -/
theorem accounts_collection (e : Entry) :
    Accounts (collectionOrigins e) (nodesOfAll (collectionOf e.expr).outline) e.exprTally
      (if e.content?.isNone then 1 else 0) := by
  cases e with
  | null =>
    rw [collectionOrigins, Entry.expr, Entry.exprTally, collectionOf, Expr.outline, nodesOfAll_singleton]
    exact .placeholder
  | node =>
    rw [collectionOf_of_isPresent (denotes_expr _ _ rfl).isPresent]
    exact accounts_expr _

/-- A null entry of a block has no nodes. -/
theorem nodesOfAll_stmtsOf_cons (e : Entry) (rest : List Entry) :
    nodesOfAll (outlineOfStmts (stmtsOf (e :: rest)))
      = nodesOfAll e.stmt.outline ++ nodesOfAll (outlineOfStmts (stmtsOf rest)) := by
  cases e with
  | null => rw [stmtsOf, Entry.stmt, Stmt.outline, nodesOfAll, List.nil_append]
  | node => simp only [stmtsOf, outlineOfStmts, nodesOfAll_append]

/-- A statement of a known tag is accounted for by what is below it. -/
theorem Accounts.known_statement {c : Content} {x : Stmt} {n : Node} {children : List Outline}
    {os : List Origin} {t t' : Tally} {k : Nat} (hdenotes : c.DenotesStmt x) (hnode : x.node? = some n)
    (houtline : x.outline = [.node n children]) (htag : c.tag ∈ statementTags)
    (h : Accounts os (nodesOfAll children) t k) (hk : k = if (Origin.statement c).lacksCollection then 1 else 0)
    (htally : t' = nodeTally c.info.range + t) :
    Accounts (.statement c :: os) (nodesOfAll x.outline) t' 0 := by
  have hcons : Accounts (.statement c :: os) (n :: nodesOfAll children) ((Origin.statement c).tally + t) 0 :=
    .cons (.statement hdenotes hnode) rfl (hk ▸ h)
  rw [houtline, nodesOfAll_singleton, htally]
  rwa [Origin.tally, Content.tally, if_pos htag] at hcons

/-- Only loops over a collection can lack one. -/
theorem lacksCollection_of_ne {c : Content} (h : c.tag ≠ "forEachStatement") :
    (Origin.statement c).lacksCollection = false := by
  simp [Origin.lacksCollection, h]

/-- The same for statements that need no collection. -/
theorem Accounts.statement {c : Content} {x : Stmt} {n : Node} {children : List Outline}
    {os : List Origin} {t t' : Tally} {tag : Tag} (hdenotes : c.DenotesStmt x) (hnode : x.node? = some n)
    (houtline : x.outline = [.node n children]) (htag : Tag.ofText c.tag = tag)
    (hplain : tag ∈ [Tag.assignment, .callStatement, .ifStatement, .whileStatement, .forStatement,
      .returnStatement, .variableDeclaration])
    (h : Accounts os (nodesOfAll children) t 0) (htally : t' = nodeTally c.info.range + t) :
    Accounts (.statement c :: os) (nodesOfAll x.outline) t' 0 := by
  have hknown : c.tag ∈ statementTags := by
    rw [mem_statementTags htag]
    revert hplain
    cases tag <;> decide
  have hne : c.tag ≠ "forEachStatement" := by
    intro heq
    rw [heq] at htag
    subst htag
    revert hplain
    decide
  refine .known_statement hdenotes hnode houtline hknown h ?_ htally
  rw [lacksCollection_of_ne hne]
  rfl

/-- A statement of an unknown tag counts as a generic node. -/
theorem Accounts.statement_generic {c : Content} (htag : c.tag ∉ statementTags) :
    Accounts [.statement c] (nodesOfAll (Stmt.generic c.generic).outline)
      (nodeTally c.info.range + { genericNodes := 1 }) 0 := by
  have hne : c.tag ≠ "forEachStatement" := fun h => htag (h ▸ by decide)
  have hleaf : Accounts [.statement c] [.expression c.generic] (Origin.statement c).tally 0 :=
    .leaf (.statement (.generic htag) rfl) rfl (lacksCollection_of_ne hne)
  rw [Stmt.outline, nodesOfAll_singleton]
  rwa [Origin.tally, Content.tally, if_neg htag] at hleaf

mutual

/-- Statements are accounted for, tag by tag. -/
theorem accounts_stmt : ∀ e : Entry,
    Accounts e.stmtOrigins (nodesOfAll e.stmt.outline) e.stmtTally 0
  | .null => by
    rw [Entry.stmtOrigins, Entry.stmt, Entry.stmtTally, Stmt.outline]
    exact .nil
  | .node info left right target expression condition counter start stop collection arguments
      thenStatements elseStatements statements clauses => by
    have hdenotes := denotes_stmt (.node info left right target expression condition counter start stop
      collection arguments thenStatements elseStatements statements clauses) _ rfl
    have hthen := accounts_stmts thenStatements
    have helse := accounts_stmts elseStatements
    have hbody := accounts_stmts statements
    have hclauses := accounts_clauses clauses
    rw [Entry.stmt] at hdenotes
    rw [Entry.stmtOrigins, Entry.stmt, Entry.stmtTally]
    revert hdenotes
    cases htag : Tag.ofText info.tag with
    | assignment =>
      intro hdenotes
      have hparts := (accounts_mention target).beside (accounts_expr expression)
      exact .statement hdenotes rfl (by rw [Stmt.outline]) htag (by decide) hparts (Tally.add_assoc _ _ _)
    | callStatement =>
      intro hdenotes
      exact .statement hdenotes rfl (by rw [Stmt.outline]) htag (by decide) (accounts_exprs arguments) rfl
    | ifStatement =>
      intro hdenotes
      -- the tally takes the last block before the further conditions, the walk after them
      have hparts := (((accounts_expr condition).beside hthen).beside hclauses).beside helse
      exact .statement hdenotes rfl (by rw [Stmt.outline]) htag (by decide) hparts (by ac_rfl)
    | whileStatement =>
      intro hdenotes
      have hparts := (accounts_expr condition).beside hbody
      exact .statement hdenotes rfl (by rw [Stmt.outline]) htag (by decide) hparts (Tally.add_assoc _ _ _)
    | forStatement =>
      intro hdenotes
      have hparts := (((accounts_mention counter).beside (accounts_expr start)).beside
        (accounts_expr stop)).beside hbody
      exact .statement hdenotes rfl (by rw [Stmt.outline, Expr.outline, List.append_nil]) htag
        (by decide) hparts (by ac_rfl)
    | forEachStatement =>
      intro hdenotes
      -- the placeholder that may be pending below is the one of this loop
      have hparts := ((accounts_mention counter).beside (accounts_collection collection)).beside hbody
      have htext : info.tag = "forEachStatement" := Tag.eq_text_of_ofText htag (by decide)
      have hknown : info.tag ∈ statementTags := (mem_statementTags htag).mpr (by decide)
      exact .known_statement hdenotes rfl
        (by rw [Stmt.outline, Expr.outline, List.append_nil, List.append_nil]) hknown hparts
        (by simp [Origin.lacksCollection, Content.tag, htext]) (by ac_rfl)
    | returnStatement =>
      intro hdenotes
      exact .statement hdenotes rfl (by rw [Stmt.outline]) htag (by decide) (accounts_expr expression) rfl
    | variableDeclaration =>
      intro hdenotes
      have hnone : Accounts [] (nodesOfAll []) {} 0 := .nil
      exact .statement hdenotes rfl (by rw [Stmt.outline]) htag (by decide) hnone (Tally.add_zero _).symm
    | _ =>
      intro _
      exact .statement_generic ((mem_statementTags htag).not.mpr (by decide))

/-- Blocks of statements are accounted for, one after another. -/
theorem accounts_stmts : ∀ es : List Entry,
    Accounts (stmtsOrigins es) (nodesOfAll (outlineOfStmts (stmtsOf es))) (stmtsTally es) 0
  | [] => .nil
  | e :: rest => by
    rw [stmtsOrigins, nodesOfAll_stmtsOf_cons, stmtsTally]
    exact (accounts_stmt e).append (accounts_stmts rest)

/-- A further condition is accounted for together with its block. -/
theorem accounts_clause : ∀ clause : Clause,
    Accounts clause.origins (nodesOfAll clause.alternative.outline) clause.tally 0
  | .mk condition statements => by
    rw [Clause.origins, Clause.alternative, Alternative.outline, nodesOfAll_append, Clause.tally]
    exact (accounts_expr condition).append (accounts_stmts statements)

/-- All further conditions are accounted for, one after another. -/
theorem accounts_clauses : ∀ clauses : List Clause,
    Accounts (clausesOrigins clauses) (nodesOfAll (outlineOfAlternatives (alternativesOf clauses)))
      (clausesTally clauses) 0
  | [] => .nil
  | clause :: rest => by
    rw [clausesOrigins, alternativesOf, outlineOfAlternatives, nodesOfAll_append, clausesTally]
    exact (accounts_clause clause).append (accounts_clauses rest)

end

/-! ## Modules -/

/-- A parameter is a leaf. -/
theorem accounts_parameter (p : ParameterEntry) :
    Accounts [.parameter p] [.parameter p.parameter] (nodeTally p.range) 0 :=
  .leaf (.parameter p) rfl rfl

/-- A variable of the module is a leaf. -/
theorem accounts_declaration (v : VariableEntry) :
    Accounts [.declaration v] [.declaration v.declaration] (nodeTally v.range) 0 :=
  .leaf (.declaration v) rfl rfl

/-- The nodes of a list of outlines without holes. -/
theorem nodesOfAll_filterMap_some {α β : Type} (f : α → β) (outline : β → Outline) (xs : List α) :
    nodesOfAll ((xs.map fun x => some (f x)).filterMap fun y => y.map outline)
      = xs.flatMap fun x => (outline (f x)).nodes := by
  induction xs with
  | nil => rfl
  | cons x rest ih =>
    simp only [List.map_cons, List.filterMap_cons, Option.map_some, nodesOfAll, ih, List.flatMap_cons]

/-- What is below a routine: parameters, then its body. -/
theorem RoutineEntry.accounts_children (r : RoutineEntry) (number : Nat) :
    Accounts r.origins (nodesOfAll (r.routine number).children)
      (sumTally (r.parameters.map fun p => nodeTally p.range) + stmtsTally r.body) 0 := by
  have hparameters := Accounts.flatMap accounts_parameter r.parameters
  rw [RoutineEntry.origins, Routine.children, nodesOfAll_append, List.map_eq_flatMap]
  refine Accounts.append ?_ (accounts_stmts r.body)
  rwa [outlineOfParameters, RoutineEntry.routine, nodesOfAll_filterMap_some]

/-- A routine with what is below it. -/
theorem RoutineEntry.accounts {r : RoutineEntry} {number : Nat} {o : Origin} {n : Node} (hyields : o.Yields n)
    (hplaceholder : o.isPlaceholder = false) (hlacks : o.lacksCollection = false)
    (htally : o.tally = nodeTally r.range) :
    Accounts (o :: r.origins) (n :: nodesOfAll (r.routine number).children) r.tally 0 := by
  have h := Accounts.cons hyields hplaceholder (by rw [hlacks]; exact r.accounts_children number)
  rwa [htally, ← Tally.add_assoc] at h

/-- Routines are accounted for one by one, whatever numbers are given to them. -/
theorem accounts_routines {origin : RoutineEntry → Origin} {node : Routine → Node}
    (h : ∀ (r : RoutineEntry) (number : Nat), Accounts (origin r :: r.origins)
      (node (r.routine number) :: nodesOfAll (r.routine number).children) r.tally 0)
    (rs : List RoutineEntry) (number : Nat → Nat) :
    Accounts (rs.flatMap fun r => origin r :: r.origins)
      (nodesOfAll ((rs.mapIdx fun i r => some (r.routine (number i))).filterMap fun slot =>
        slot.map fun r => .node (node r) r.children))
      (sumTally (rs.map RoutineEntry.tally)) 0 := by
  induction rs generalizing number with
  | nil => exact .nil
  | cons r rest ih =>
    have hrest := (h r (number 0)).append (ih fun i => number (i + 1))
    rw [List.mapIdx_cons, List.filterMap_cons, List.flatMap_cons]
    simp only [Option.map_some, nodesOfAll, Outline.nodes]
    exact hrest

/-- All nodes of a decoded module are accounted for. -/
theorem ModuleEntry.accounts (m : ModuleEntry) (source? : Option String) (fallback : String) :
    Accounts m.origins (m.module source? fallback).outline.nodes m.tally 0 := by
  have hdeclarations := Accounts.flatMap accounts_declaration m.declarations
  have hfunctions := accounts_routines (fun r number =>
    RoutineEntry.accounts (.function (r.denotes_routine number)) rfl rfl rfl) m.functions id
  have hprocedures := accounts_routines (fun r number =>
    RoutineEntry.accounts (.procedure (r.denotes_routine number)) rfl rfl rfl) m.procedures id
  have hbelow := (hdeclarations.append hfunctions).append hprocedures
  have hyields : (Origin.module m).Yields (.module (m.module source? fallback)) :=
    .module (m.denotes_module source? fallback)
  have h := Accounts.cons hyields rfl hbelow
  rw [← Tally.add_assoc, ← Tally.add_assoc] at h
  rw [ModuleEntry.origins, Module.outline, Outline.nodes, nodesOfAll_append, nodesOfAll_append,
    List.map_eq_flatMap]
  simp only [ModuleEntry.module, nodesOfAll_filterMap_some]
  exact h

end ModuleLint.Document
